import PrivateRetrieval.Configuration.Settings
import PrivateRetrieval.Proofs.Configuration.AssignmentFile
import PrivateRetrieval.Proofs.Text.Decimal

namespace PrivateRetrieval

/-!
# Parameters follow the texts of their settings

The parameters are a function of three texts, any of which may be missing, and of the defaults.  There are
two rounds.  In the first a text that stands for no number ends everything, and if there are several the
first of them is reported as it was written.  In the second the numbers are in their ranges, or the first
that is not is named.  So the text of the last setting counts before the range of the first.

The texts themselves come from the process, and from the file of assignments where the process has none.
Which assignments a file has is left to the reader of such files, and so is what the values stand for.
-/

/-! ## Ranges -/

/-- The settings that come before one. -/
def Setting.earlier : Setting → List Setting
  | .logn => []
  | .rowLength => [.logn]
  | .threads => [.logn, .rowLength]

/-- If something holds of a setting, then there is a first setting that it holds of. -/
theorem Setting.exists_first {holds : Setting → Prop} (somewhere : ∃ setting, holds setting) :
    ∃ setting, holds setting ∧ ∀ earlier ∈ setting.earlier, ¬ holds earlier := by
  by_cases logn : holds .logn
  · exact ⟨.logn, logn, fun earlier member => absurd member List.not_mem_nil⟩
  by_cases rowLength : holds .rowLength
  · refine ⟨.rowLength, rowLength, fun earlier member => ?_⟩
    cases List.mem_singleton.mp member
    exact logn
  rcases somewhere with ⟨setting, found⟩
  cases setting with
  | logn => exact absurd found logn
  | rowLength => exact absurd found rowLength
  | threads =>
      refine ⟨.threads, found, ?_⟩
      exact List.forall_mem_cons.mpr ⟨logn, List.forall_mem_singleton.mpr rowLength⟩

/-- The numbers that a setting may have. -/
def Setting.Allows : Setting → Nat → Prop
  | .logn, number => number ≤ 32
  | .rowLength, number => 0 < number ∧ 16 ∣ number
  | .threads, number => 1 ≤ number

/-- How a number of a setting is refused. -/
def Setting.refusal : Setting → Nat → InvalidParameter
  | .logn, number => .logn number
  | .rowLength, number => .rowLength number
  | .threads, _ => .threads

namespace Params

/-- The number that belongs to a setting. -/
def numberOf (params : Params) : Setting → Nat
  | .logn => params.logn
  | .rowLength => params.rowLength
  | .threads => params.threads

theorem valid_iff_allows {params : Params} :
    params.Valid ↔ ∀ setting : Setting, setting.Allows (params.numberOf setting) := by
  constructor
  · intro valid setting
    cases setting with
    | logn => exact valid.logn_le
    | rowLength => exact ⟨valid.rowLength_pos, Nat.dvd_of_mod_eq_zero valid.rowLength_whole⟩
    | threads => exact valid.threads_pos
  · intro allowed
    have row := allowed .rowLength
    exact
      { logn_le := allowed .logn
        rowLength_pos := row.1
        rowLength_whole := Nat.mod_eq_zero_of_dvd row.2
        threads_pos := allowed .threads }

/-- The first number out of its range is the one that is refused. -/
theorem validate_eq_error {params : Params} {setting : Setting}
    (violated : ¬ setting.Allows (params.numberOf setting))
    (fine : ∀ earlier ∈ setting.earlier, earlier.Allows (params.numberOf earlier)) :
    params.validate =
      .error (.retrieval (.invalidParameter (setting.refusal (params.numberOf setting)))) := by
  have rowCondition : 0 < params.rowLength ∧ params.rowLength % Block.byteCount = 0 ↔
      Setting.rowLength.Allows params.rowLength :=
    and_congr_right fun _ => Nat.dvd_iff_mod_eq_zero.symm
  cases setting with
  | logn =>
      have above : ¬ params.logn ≤ PointFunction.maxLogn := violated
      exact bind_of_eq_error (require_eq_error above) _
  | rowLength =>
      have exponent : params.logn ≤ PointFunction.maxLogn := fine .logn (by decide)
      refine (bind_of_eq_ok (require_eq_ok_iff.mpr exponent) _).trans ?_
      exact bind_of_eq_error (require_eq_error fun row => violated (rowCondition.mp row)) _
  | threads =>
      have exponent : params.logn ≤ PointFunction.maxLogn := fine .logn (by decide)
      have row := rowCondition.mpr (fine .rowLength (by decide))
      have idle : ¬ 0 < params.threads := violated
      refine (bind_of_eq_ok (require_eq_ok_iff.mpr exponent) _).trans ?_
      refine (bind_of_eq_ok (require_eq_ok_iff.mpr row) _).trans ?_
      exact require_eq_error idle

end Params

namespace Settings

/-! ## Texts -/

/-- A text, if there is one, stands for some number. -/
def Readable (text? : Option String) : Prop :=
  ∀ text, text? = some text → ∃ number, Text.Denotes text number

/-- The number of a setting: what its text stands for, or the default if it has none. -/
def Gives (default : Nat) : Option String → Nat → Prop
  | none, number => number = default
  | some text, number => Text.Denotes text number

theorem Readable.exists_gives {text? : Option String} (readable : Readable text?) (default : Nat) :
    ∃ number, Gives default text? number := by
  cases text? with
  | none => exact ⟨default, rfl⟩
  | some text => exact readable text rfl

/-- Each number is the one that the text of its setting, or the default in its place, gives. -/
def Chosen (defaults : Params) (textOf : Setting → Option String) (params : Params) : Prop :=
  ∀ setting : Setting, Gives (defaults.numberOf setting) (textOf setting) (params.numberOf setting)

theorem exists_chosen {defaults : Params} {textOf : Setting → Option String}
    (readable : ∀ setting, Readable (textOf setting)) : ∃ params, Chosen defaults textOf params := by
  obtain ⟨logn, givesLogn⟩ := (readable .logn).exists_gives defaults.logn
  obtain ⟨rowLength, givesRowLength⟩ := (readable .rowLength).exists_gives defaults.rowLength
  obtain ⟨threads, givesThreads⟩ := (readable .threads).exists_gives defaults.threads
  refine ⟨⟨logn, rowLength, threads⟩, fun setting => ?_⟩
  cases setting with
  | logn => exact givesLogn
  | rowLength => exact givesRowLength
  | threads => exact givesThreads

/-! ## Reading and checking -/

variable {environment : Environment} {setting : Setting}

theorem read_eq_ok {default number : Nat}
    (given : Gives default (environment.text? setting.variable) number) :
    ∃ number?, read environment setting = .ok number? ∧ number?.getD default = number := by
  unfold read
  cases present : environment.text? setting.variable with
  | none =>
      rw [present] at given
      exact ⟨none, rfl, given.symm⟩
  | some text =>
      rw [present] at given
      refine ⟨some number, ?_, rfl⟩
      dsimp only
      rw [Text.readDecimal_trim_eq_ok_iff.mpr given]

theorem Readable.exists_read (readable : Readable (environment.text? setting.variable)) :
    ∃ number?, read environment setting = .ok number? := by
  obtain ⟨number, given⟩ := readable.exists_gives 0
  obtain ⟨number?, done, _⟩ := read_eq_ok given
  exact ⟨number?, done⟩

theorem read_eq_error {text : String} (present : environment.text? setting.variable = some text)
    (unreadable : ¬ ∃ number, Text.Denotes text number) :
    ∃ cause, Text.readDecimal (Text.trim text.toList) = .error cause ∧
      read environment setting = .error (.retrieval (.unreadableSetting setting text cause)) := by
  unfold read
  rw [present]
  cases reading : Text.readDecimal (Text.trim text.toList) with
  | ok number => exact absurd ⟨number, Text.readDecimal_trim_eq_ok_iff.mp reading⟩ unreadable
  | error cause =>
      refine ⟨cause, rfl, ?_⟩
      dsimp only
      rw [reading]

/-- The first setting that cannot be read is the end. -/
theorem params_eq_error {defaults : Params} {failure : Failure}
    (fine : ∀ earlier ∈ setting.earlier, ∃ number?, read environment earlier = .ok number?)
    (failed : read environment setting = .error failure) :
    params defaults environment = .error failure := by
  cases setting with
  | logn => exact bind_of_eq_error failed _
  | rowLength =>
      obtain ⟨_, readLogn⟩ := fine .logn (by decide)
      refine (bind_of_eq_ok readLogn _).trans ?_
      exact bind_of_eq_error failed _
  | threads =>
      obtain ⟨_, readLogn⟩ := fine .logn (by decide)
      obtain ⟨_, readRowLength⟩ := fine .rowLength (by decide)
      refine (bind_of_eq_ok readLogn _).trans ?_
      refine (bind_of_eq_ok readRowLength _).trans ?_
      exact bind_of_eq_error failed _

/-- The first text that stands for no number is reported, whatever comes after it. -/
theorem params_eq_unreadable {defaults : Params} {text : String}
    (present : environment.text? setting.variable = some text)
    (unreadable : ¬ ∃ number, Text.Denotes text number)
    (fine : ∀ earlier ∈ setting.earlier, Readable (environment.text? earlier.variable)) :
    ∃ cause, Text.readDecimal (Text.trim text.toList) = .error cause ∧
      params defaults environment = .error (.retrieval (.unreadableSetting setting text cause)) := by
  obtain ⟨cause, reason, failed⟩ := read_eq_error present unreadable
  have readEarlier := fun earlier member => (fine earlier member).exists_read
  exact ⟨cause, reason, params_eq_error readEarlier failed⟩

/-- If all settings can be read, the numbers that they give are checked. -/
theorem params_eq_validated {defaults chosen : Params}
    (given : Chosen defaults (fun setting => environment.text? setting.variable) chosen) :
    params defaults environment = (do chosen.validate; return chosen) := by
  obtain ⟨logn?, readLogn, isLogn⟩ := read_eq_ok (given .logn)
  obtain ⟨rowLength?, readRowLength, isRowLength⟩ := read_eq_ok (given .rowLength)
  obtain ⟨threads?, readThreads, isThreads⟩ := read_eq_ok (given .threads)
  refine (bind_of_eq_ok readLogn _).trans ?_
  refine (bind_of_eq_ok readRowLength _).trans ?_
  refine (bind_of_eq_ok readThreads _).trans ?_
  have same : Params.mk (logn?.getD defaults.logn) (rowLength?.getD defaults.rowLength)
      (threads?.getD defaults.threads) = chosen := by
    rcases chosen with ⟨logn, rowLength, threads⟩
    exact Params.mk.injEq _ _ _ _ _ _ ▸ ⟨isLogn, isRowLength, isThreads⟩
  exact congrArg (fun params : Params => do params.validate; return params) same

/-! ## Outcomes -/

/-- What parameters come from texts of settings and defaults. -/
structure FollowsTexts (defaults : Params) (textOf : Setting → Option String)
    (outcome : Outcome Params) : Prop where
  /-- The first text that stands for no number is reported as it is written. -/
  unreadable : ∀ {setting text}, textOf setting = some text →
    (¬ ∃ number, Text.Denotes text number) →
    (∀ earlier ∈ setting.earlier, Readable (textOf earlier)) →
      ∃ cause, Text.readDecimal (Text.trim text.toList) = .error cause ∧
        outcome = .error (.retrieval (.unreadableSetting setting text cause))
  /-- Such a text is reported whatever the other numbers are. -/
  texts_first : (∃ setting, ¬ Readable (textOf setting)) →
    ∃ setting text cause, textOf setting = some text ∧ (¬ ∃ number, Text.Denotes text number) ∧
      outcome = .error (.retrieval (.unreadableSetting setting text cause))
  /-- Otherwise each setting has a number. -/
  chosen : (∀ setting, Readable (textOf setting)) → ∃ params, Chosen defaults textOf params
  /-- These numbers are the parameters if all of them are in their ranges. -/
  accepted_iff : ∀ {params}, Chosen defaults textOf params →
    (outcome = .ok params ↔ ∀ setting : Setting, setting.Allows (params.numberOf setting))
  /-- The first number that is not in its range is reported. -/
  refused : ∀ {params} {setting : Setting}, Chosen defaults textOf params →
    ¬ setting.Allows (params.numberOf setting) →
    (∀ earlier ∈ setting.earlier, earlier.Allows (params.numberOf earlier)) →
      outcome = .error (.retrieval (.invalidParameter (setting.refusal (params.numberOf setting))))

theorem params_followsTexts (defaults : Params) (environment : Environment) :
    FollowsTexts defaults (fun setting => environment.text? setting.variable)
      (params defaults environment) where
  unreadable := params_eq_unreadable
  texts_first := by
    intro somewhere
    obtain ⟨setting, unreadable, first⟩ := Setting.exists_first somewhere
    obtain ⟨text, notRead⟩ := not_forall.mp unreadable
    rcases Classical.not_imp.mp notRead with ⟨present, noNumber⟩
    obtain ⟨cause, _, failed⟩ :=
      params_eq_unreadable present noNumber fun earlier member => not_not.mp (first earlier member)
    exact ⟨setting, text, cause, present, noNumber, failed⟩
  chosen := exists_chosen
  accepted_iff := by
    intro chosen given
    rw [params_eq_validated given, check_bind_eq_ok_iff, Params.validate_eq_ok_iff,
      Params.valid_iff_allows]
    exact and_iff_left rfl
  refused := by
    intro chosen setting given violated fine
    rw [params_eq_validated given]
    exact bind_of_eq_error (Params.validate_eq_error violated fine) _

/-- **The parameters follow the texts that the process and the file of assignments give.** -/
theorem load_follows_texts {entries : List (String × ByteArray)} {environment : Environment}
    (possible : Environment.ofEntries entries = .ok environment) {file : Option String}
    (plain : ∀ text, file = some text → '\x00' ∉ text.toList) (defaults : Params) :
    FollowsTexts defaults
      (fun setting => AssignmentFile.textAfter? environment file setting.variable)
      (load defaults environment file) := by
  obtain ⟨after, done, texts⟩ :=
    AssignmentFile.load_eq_ok (Environment.nullFree_of_ofEntries possible) plain
  have loaded : load defaults environment file = params defaults after := bind_of_eq_ok done _
  have sameTexts :
      (fun setting : Setting => AssignmentFile.textAfter? environment file setting.variable) =
        fun setting => after.text? setting.variable :=
    funext fun setting => (texts setting.variable).symm
  rw [loaded, sameTexts]
  exact params_followsTexts defaults after

/-- A variable that is not UTF-8 is as good as none, a variable that is set does not change, and the number
of workers is looked at before the length of a row turns out to be zero. -/
theorem load_follows_texts_with_file :
    let entries := [("PIR_LOGN", " 12 ".toUTF8), ("PIR_ROW_LEN", ByteArray.mk #[0xff])]
    let environment : Environment := ⟨entries⟩
    let text := "PIR_ROW_LEN=0\nPIR_THREADS=many\nPIR_LOGN=99\n"
    Environment.ofEntries entries = .ok environment ∧ '\x00' ∉ text.toList ∧
      FollowsTexts (standard 4)
        (fun setting => AssignmentFile.textAfter? environment (some text) setting.variable)
        (load (standard 4) environment (some text)) ∧
      AssignmentFile.textAfter? environment (some text) "PIR_LOGN" = some " 12 " ∧
      AssignmentFile.textAfter? environment (some text) "PIR_ROW_LEN" = some "0" ∧
      load (standard 4) environment (some text) =
        .error (.retrieval (.unreadableSetting .threads "many" .invalidDigit)) := by
  intro entries environment text
  have possible : Environment.ofEntries entries = .ok environment := if_pos (by decide +kernel)
  have plain : '\x00' ∉ text.toList := by decide +kernel
  have follows := load_follows_texts possible (fun _ same => Option.some.inj same ▸ plain) (standard 4)
  refine ⟨possible, plain, follows, by decide +kernel, by decide +kernel, ?_⟩
  dsimp only [environment, entries, text]
  rfl

end Settings
end PrivateRetrieval
