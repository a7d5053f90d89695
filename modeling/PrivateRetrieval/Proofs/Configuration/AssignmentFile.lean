import Mathlib.Data.List.TakeWhile
import PrivateRetrieval.Configuration.AssignmentFile

namespace PrivateRetrieval

/-!
# What a file of assignments leaves in the environment

After a file of assignments every variable has the text that it had before, and if it had none, the text of
its first assignment in the file.  What comes later in the file has no influence on it, although each
assignment takes effect before the next line is read.

A null character cannot be part of a variable, so it could keep an assignment from taking effect.  None can
get into a value if the file has none: the characters of a value are those of its line, those that an escape
stands for and those of other variables.
-/

namespace Environment

/-! ## Variables -/

theorem text?_set (environment : Environment) (name value other : String) :
    (environment.set name value).text? other =
      if other = name then some value else environment.text? other := by
  rw [text?, set, List.lookup_cons]
  by_cases same : other = name
  · rw [if_pos same, beq_iff_eq.mpr same]
    exact dif_pos value.isValidUTF8
  · rw [if_neg same, beq_eq_false_iff_ne.mpr same]
    rfl

/-- A variable that is set keeps its text. -/
theorem text?_setIfUnset (environment : Environment) (name value other : String) :
    (environment.setIfUnset name value).text? other =
      (environment.text? other).or (if other = name then some value else none) := by
  rw [setIfUnset]
  by_cases same : other = name
  · rw [if_pos same, same]
    cases present : environment.text? name with
    | some text => exact present
    | none => exact (text?_set _ _ _ _).trans (if_pos rfl)
  · rw [if_neg same, Option.or_none]
    cases environment.text? name with
    | some text => rfl
    | none => exact (text?_set _ _ _ _).trans (if_neg same)

/-- No variable has a text with a null character. -/
def NullFree (environment : Environment) : Prop :=
  ∀ name text, environment.text? name = some text → '\x00' ∉ text.toList

theorem zero_mem_utf8Encode {characters : List Char} (member : '\x00' ∈ characters) :
    (0 : UInt8) ∈ characters.utf8Encode.data := by
  induction characters with
  | nil => cases member
  | cons c rest later =>
      rw [List.utf8Encode_cons, ByteArray.data_append, Array.mem_append]
      rcases List.mem_cons.mp member with rfl | inRest
      · left
        simp [List.utf8Encode, String.utf8EncodeChar]
      · exact Or.inr (later inRest)

theorem null_not_mem_of_fromUTF8? {bytes : ByteArray} {text : String}
    (zeroFree : (0 : UInt8) ∉ bytes.data) (found : String.fromUTF8? bytes = some text) :
    '\x00' ∉ text.toList := by
  intro member
  rw [String.fromUTF8?] at found
  split at found
  · cases found
    have encoded := zero_mem_utf8Encode member
    rw [String.utf8Encode_toList] at encoded
    exact zeroFree encoded
  · cases found

/-- The variables of a process have no null characters. -/
theorem nullFree_of_ofEntries {entries : List (String × ByteArray)} {environment : Environment}
    (possible : ofEntries entries = .ok environment) : environment.NullFree := by
  unfold ofEntries at possible
  split at possible
  · next admitted =>
      cases possible
      intro name text found
      rw [text?] at found
      cases present : entries.lookup name with
      | none =>
          rw [present] at found
          cases found
      | some bytes =>
          rw [present] at found
          obtain ⟨earlier, later, split, _⟩ := List.lookup_eq_some_iff.mp present
          have entry : (name, bytes) ∈ entries := by
            rw [split]
            exact List.mem_append_right earlier List.mem_cons_self
          have allowed : admits name bytes = true := List.all_eq_true.mp admitted _ entry
          have zeroFree : (!bytes.data.contains 0) = true := (Bool.and_eq_true_iff.mp allowed).2
          refine null_not_mem_of_fromUTF8? (fun zero => ?_) found
          rw [Array.contains_iff_mem.mpr zero] at zeroFree
          cases zeroFree
  · cases possible

theorem NullFree.setIfUnset {environment : Environment} (free : environment.NullFree) (name : String)
    {value : String} (plain : '\x00' ∉ value.toList) : (environment.setIfUnset name value).NullFree := by
  intro other text found
  rw [text?_setIfUnset] at found
  rcases Option.or_eq_some_iff.mp found with present | ⟨_, assigned⟩
  · exact free other text present
  · split at assigned
    · cases assigned
      exact plain
    · cases assigned

theorem afterBeginning?_isSuffix {beginning text rest : List Char}
    (found : afterBeginning? beginning text = some rest) : rest <:+ text := by
  fun_induction afterBeginning? beginning text with
  | case1 text =>
      cases found
      exact List.suffix_rfl
  | case2 => cases found
  | case3 beginning c text shorter => exact (shorter found).trans (List.suffix_cons c text)
  | case4 => cases found

/-- What a name stands for is the end of the text of a variable. -/
theorem NullFree.null_not_mem_lookUp? {environment : Environment} (free : environment.NullFree)
    {name meant : List Char} (found : environment.lookUp? name = some meant) : '\x00' ∉ meant := by
  rw [lookUp?] at found
  rcases Option.bind_eq_some_iff.mp found with ⟨text, present, rest⟩
  have plain := free _ text present
  split at rest
  · cases rest
    exact plain
  · exact fun member => plain ((afterBeginning?_isSuffix rest).subset member)

end Environment

namespace AssignmentFile

/-! ## Characters of lines -/

theorem flatten_physicalLines (text : List Char) : (physicalLines text).flatten = text := by
  induction text with
  | nil => rfl
  | cons c rest joined =>
      rw [physicalLines]
      by_cases ends : c = '\n'
      · rw [if_pos ends, List.flatten_cons, joined]
        rfl
      · rw [if_neg ends]
        cases lines : physicalLines rest with
        | nil =>
            rw [lines] at joined
            rw [← joined]
            rfl
        | cons line later =>
            rw [lines] at joined
            rw [← joined]
            rfl

theorem run_subset (scan : Scan) (line : List Char) : (scan.run line).2 ⊆ line := by
  induction line generalizing scan with
  | nil => exact List.Subset.refl []
  | cons c rest later =>
      rw [Scan.run]
      split
      · exact List.nil_subset _
      · exact List.cons_subset_cons c (later _)

theorem dropLineEnd_subset (line : List Char) : dropLineEnd line ⊆ line := by
  intro c member
  unfold dropLineEnd at member
  split at member
  · next reversed =>
      have last := List.mem_cons_of_mem '\n' (List.mem_cons_of_mem '\r' (List.mem_reverse.mp member))
      rw [← reversed] at last
      exact List.mem_reverse.mp last
  · next reversed =>
      have last := List.mem_cons_of_mem '\n' (List.mem_reverse.mp member)
      rw [← reversed] at last
      exact List.mem_reverse.mp last
  · exact member

/-- A logical line has the characters of the physical lines that it is put together from. -/
theorem subset_of_mem_logicalLinesFrom {started found : List Char} {scan : Scan}
    {lines : List (List Char)} (member : some found ∈ logicalLinesFrom started scan lines) :
    found ⊆ started ++ lines.flatten := by
  fun_induction logicalLinesFrom started scan lines with
  | case1 => cases member
  | case2 => cases List.mem_singleton.mp member
  | case3 started _ line later _ _ ofLater =>
      rw [List.flatten_cons, ← List.append_assoc]
      rcases List.mem_cons.mp member with here | inLater
      · cases here
        exact List.nil_subset _
      · exact List.subset_append_of_subset_right _ (ofLater inLater)
  | case4 started _ line later whole _ _ _ ofLater =>
      rw [List.flatten_cons, ← List.append_assoc]
      rcases List.mem_cons.mp member with here | inLater
      · cases here
        exact List.subset_append_of_subset_left _ (dropLineEnd_subset whole)
      · exact List.subset_append_of_subset_right _ (ofLater inLater)
  | case5 started scan line later whole _ kept scanned ofLater =>
      rw [List.flatten_cons, ← List.append_assoc]
      rcases List.mem_cons.mp member with here | inLater
      · cases here
        have ofLine : kept ⊆ line := by
          have subset := run_subset scan line
          rw [scanned] at subset
          exact subset
        have ofWhole : started ++ kept ⊆ started ++ line :=
          List.append_subset.mpr
            ⟨List.subset_append_left _ _, List.subset_append_of_subset_right _ ofLine⟩
        exact List.subset_append_of_subset_left _ ofWhole
      · exact List.subset_append_of_subset_right _ (ofLater inLater)
  | case6 started _ line later whole _ _ _ _ _ _ ofLater =>
      rw [List.flatten_cons, ← List.append_assoc]
      exact ofLater member

theorem subset_of_mem_logicalLines {text line : List Char} (member : some line ∈ logicalLines text) :
    line ⊆ text := by
  have subset := subset_of_mem_logicalLinesFrom member
  rw [flatten_physicalLines] at subset
  exact subset

/-! ## Characters of values -/

theorem null_not_mem_substitution {environment : Environment} (free : environment.NullFree)
    (reversedName : List Char) : '\x00' ∉ substitution environment reversedName := by
  rw [substitution]
  cases found : environment.lookUp? reversedName.reverse with
  | none => exact List.not_mem_nil
  | some meant => exact free.null_not_mem_lookUp? found

theorem escapedCharacter?_ne_null {c meant : Char} (escaped : escapedCharacter? c = some meant) :
    meant ≠ '\x00' := by
  unfold escapedCharacter? at escaped
  split at escaped <;> grind

/-- A step of the reader passes over a character, keeps it, or puts the character of an escape or the text
of a variable in its place. -/
theorem null_not_mem_of_readValueFrom {environment : Environment} (free : environment.NullFree)
    {reading : Reading} {text meant : List Char} (plain : '\x00' ∉ text)
    (read : readValueFrom environment reading text = some meant) : '\x00' ∉ meant := by
  have ofVariable := null_not_mem_substitution free
  have ofEscape := @escapedCharacter?_ne_null
  fun_induction readValueFrom environment reading text generalizing meant <;>
    grind [Option.map_eq_some_iff]

theorem trimStart_subset (text : List Char) : Text.trimStart text ⊆ text :=
  (List.dropWhile_suffix _).subset

theorem trim_subset (text : List Char) : Text.trim text ⊆ text := by
  intro c member
  have kept := (List.dropWhile_suffix _).subset (List.mem_reverse.mp member)
  exact trimStart_subset text (List.mem_reverse.mp kept)

theorem splitName_subset {text name rest : List Char} (split : splitName text = some (name, rest)) :
    rest ⊆ text := by
  rw [splitName.eq_def] at split
  cases text with
  | nil => cases split
  | cons c later =>
      dsimp only at split
      by_cases starts : startsName c = true
      · rw [if_pos starts] at split
        cases split
        exact (List.dropWhile_suffix _).subset
      · rw [if_neg starts] at split
        cases split

theorem afterEquals_subset {text rest : List Char} (split : afterEquals text = some rest) :
    rest ⊆ text := by
  unfold afterEquals at split
  split at split
  · cases split
    exact List.subset_cons_self _ _
  · cases split

theorem splitAssignment_subset {text name value : List Char}
    (split : splitAssignment text = some (name, value)) : value ⊆ text := by
  unfold splitAssignment at split
  rcases Option.bind_eq_some_iff.mp split with ⟨⟨first, rest⟩, named, assigned⟩
  have ofRest := List.Subset.trans (trimStart_subset rest) (splitName_subset named)
  dsimp only at assigned
  cases sign : afterEquals (Text.trimStart rest) with
  | some found =>
      rw [sign] at assigned
      cases assigned
      exact List.Subset.trans (afterEquals_subset sign) ofRest
  | none =>
      rw [sign] at assigned
      dsimp only at assigned
      -- The first name is the word `export`, and the assignment follows it.
      by_cases word : first = "export".toList
      · rw [if_pos word] at assigned
        rcases Option.bind_eq_some_iff.mp assigned with ⟨⟨second, later⟩, namedNext, signed⟩
        rcases Option.bind_eq_some_iff.mp signed with ⟨found, signNext, same⟩
        cases same
        have ofLater := List.Subset.trans (trimStart_subset later) (splitName_subset namedNext)
        have ofAssignment := List.Subset.trans (afterEquals_subset signNext) ofLater
        exact List.Subset.trans ofAssignment ofRest
      · rw [if_neg word] at assigned
        cases assigned

/-- The value of an assignment has no null character if its line has none. -/
theorem null_not_mem_of_readLine {environment : Environment} (free : environment.NullFree)
    {line : List Char} (plain : '\x00' ∉ line) {name value : String}
    (read : readLine environment line = .assignment name value) : '\x00' ∉ value.toList := by
  unfold readLine at read
  dsimp only at read
  split at read
  · cases read
  · split at read
    · cases read
    · next _ written split =>
        have ofText := List.Subset.trans (trimStart_subset written) (splitAssignment_subset split)
        have ofLine := List.Subset.trans ofText (trim_subset line)
        split at read
        · cases read
          exact List.not_mem_nil
        · split at read
          · next meant readMeant =>
              cases read
              rw [String.toList_ofList]
              exact null_not_mem_of_readValueFrom free (fun member => plain (ofLine member)) readMeant
          · cases read

theorem null_not_mem_of_assignmentsOf {environment : Environment} (free : environment.NullFree)
    {lines : List (Option (List Char))} (plain : ∀ line, some line ∈ lines → '\x00' ∉ line) :
    ∀ assigned ∈ assignmentsOf environment lines, '\x00' ∉ assigned.2.toList := by
  fun_induction assignmentsOf environment lines with
  | case1 => exact fun _ member => absurd member List.not_mem_nil
  | case2 => exact fun _ member => absurd member List.not_mem_nil
  | case3 _ line later _ ofLater =>
      exact ofLater free fun line member => plain line (List.mem_cons_of_mem _ member)
  | case4 => exact fun _ member => absurd member List.not_mem_nil
  | case5 _ line later name value read ofLater =>
      have ofLine := null_not_mem_of_readLine free (plain line List.mem_cons_self) read
      have next := ofLater (free.setIfUnset name ofLine)
        fun line member => plain line (List.mem_cons_of_mem _ member)
      exact List.forall_mem_cons.mpr ⟨ofLine, next⟩

theorem null_not_mem_of_assignments {environment : Environment} (free : environment.NullFree)
    {text : String} (plain : '\x00' ∉ text.toList) :
    ∀ assigned ∈ assignments environment text, '\x00' ∉ assigned.2.toList := by
  refine null_not_mem_of_assignmentsOf free fun line member inLine => plain ?_
  have inRead := subset_of_mem_logicalLines member inLine
  split at inRead
  · exact List.mem_of_mem_drop inRead
  · exact inRead

/-! ## The environment afterwards -/

/-- A variable that is not set takes the text of its first assignment. -/
theorem assign_eq_ok {environment : Environment} {assigned : List (String × String)}
    (plain : ∀ entry ∈ assigned, '\x00' ∉ entry.2.toList) :
    ∃ after, assign environment assigned = .ok after ∧
      ∀ name, after.text? name = (environment.text? name).or (assigned.lookup name) := by
  induction assigned generalizing environment with
  | nil =>
      refine ⟨environment, rfl, fun name => ?_⟩
      rw [List.lookup_nil, Option.or_none]
  | cons entry later assignLater =>
      rcases entry with ⟨first, value⟩
      rcases List.forall_mem_cons.mp plain with ⟨ofFirst, ofLater⟩
      have possible : ¬ (environment.text? first = none ∧ value.toList.contains '\x00' = true) :=
        fun impossible => ofFirst (List.contains_iff_mem.mp impossible.2)
      obtain ⟨after, done, texts⟩ := @assignLater (environment.setIfUnset first value) ofLater
      refine ⟨after, (if_neg possible).trans done, fun name => ?_⟩
      rw [texts, Environment.text?_setIfUnset, Option.or_assoc, List.lookup_cons]
      by_cases same : name = first
      · rw [if_pos same, beq_iff_eq.mpr same]
        rfl
      · rw [if_neg same, beq_eq_false_iff_ne.mpr same]
        rfl

/-- The text of a variable after a file of assignments, if there is one: a variable of the process keeps
its text, and any other takes the text of its first assignment. -/
def textAfter? (environment : Environment) (file : Option String) (name : String) : Option String :=
  (environment.text? name).or (file.bind fun text => (assignments environment text).lookup name)

theorem load_eq_ok {environment : Environment} (free : environment.NullFree) {file : Option String}
    (plain : ∀ text, file = some text → '\x00' ∉ text.toList) :
    ∃ after, load environment file = .ok after ∧
      ∀ name, after.text? name = textAfter? environment file name := by
  cases file with
  | none => exact ⟨environment, rfl, fun name => Option.or_none.symm⟩
  | some text => exact assign_eq_ok (null_not_mem_of_assignments free (plain text rfl))

end AssignmentFile
end PrivateRetrieval
