import PrivateRetrieval.Client
import PrivateRetrieval.Configuration.Settings
import PrivateRetrieval.Fold.Sum
import PrivateRetrieval.HalfTree.Descent
import PrivateRetrieval.Matrix.Entry
import PrivateRetrieval.Matrix.Product
import PrivateRetrieval.Server
import PrivateRetrieval.Proofs.HalfTree.Nodes
import PrivateRetrieval.Proofs.HalfTree.Offset
import PrivateRetrieval.Proofs.HalfTree.Divergence
import PrivateRetrieval.Proofs.PackedBits
import PrivateRetrieval.Proofs.PointFunction.Bit
import PrivateRetrieval.Proofs.Field.Addition
import PrivateRetrieval.Proofs.PointFunction.Field
import PrivateRetrieval.Proofs.PointFunction.Agreement
import PrivateRetrieval.Proofs.PointFunction.EntryChecks
import PrivateRetrieval.Proofs.PointFunction.TwoRuns
import PrivateRetrieval.Proofs.Fold.Selected
import PrivateRetrieval.Proofs.Workers.Partition
import PrivateRetrieval.Proofs.Workers.Schedule
import PrivateRetrieval.Proofs.Fold.SelectedParallel
import PrivateRetrieval.Proofs.Field.Polynomial
import PrivateRetrieval.Proofs.Field.Product
import PrivateRetrieval.Proofs.Field.Halves
import PrivateRetrieval.Proofs.Field.Ring
import PrivateRetrieval.Proofs.Field.Inverse
import PrivateRetrieval.Proofs.Field.Blocks
import PrivateRetrieval.Proofs.Field.LittleEndian
import PrivateRetrieval.Proofs.Field.Powers
import PrivateRetrieval.Proofs.Fold.Weighted
import PrivateRetrieval.Proofs.Fold.Sharing
import PrivateRetrieval.Proofs.Fold.Rows
import PrivateRetrieval.Proofs.Fold.Linearity
import PrivateRetrieval.Proofs.Fold.Indicator
import PrivateRetrieval.Proofs.Fold.Rebalanced
import PrivateRetrieval.Proofs.Fold.EntryChecks
import PrivateRetrieval.Proofs.Workers.Rows
import PrivateRetrieval.Proofs.Matrix.Product
import PrivateRetrieval.Proofs.Matrix.Sharing
import PrivateRetrieval.Proofs.Matrix.Entries
import PrivateRetrieval.Proofs.Matrix.Indicator
import PrivateRetrieval.Proofs.Matrix.Shape
import PrivateRetrieval.Proofs.Fold.Sum
import PrivateRetrieval.Proofs.Server
import PrivateRetrieval.Proofs.Client
import PrivateRetrieval.Proofs.Unscaling
import PrivateRetrieval.Proofs.Retrieval
import PrivateRetrieval.Proofs.PointwiseAnswer
import PrivateRetrieval.Proofs.KeyScreening
import PrivateRetrieval.Proofs.Batch
import PrivateRetrieval.Proofs.Slicing
import PrivateRetrieval.Proofs.Workers.Shares
import PrivateRetrieval.Proofs.Workers.Visits
import PrivateRetrieval.Proofs.Configuration.AssignmentFile
import PrivateRetrieval.Proofs.Configuration.Settings
import PrivateRetrieval.Proofs.HalfTree.Invariant
