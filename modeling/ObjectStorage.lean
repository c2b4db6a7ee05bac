import ObjectStorage.Kv.Trial
import ObjectStorage.Main
import ObjectStorage.Metrics
import ObjectStorage.Service.Scripted
import ObjectStorage.Proofs.Ipmfs.Listing
import ObjectStorage.Proofs.Range
import ObjectStorage.Proofs.Reading
import ObjectStorage.Proofs.Operator
import ObjectStorage.Proofs.Path.Key
import ObjectStorage.Proofs.FileMap
import ObjectStorage.Proofs.Memory
import ObjectStorage.Proofs.Children
import ObjectStorage.Proofs.Text.Order
import ObjectStorage.Proofs.Kv.Listing
import ObjectStorage.Proofs.Layer.Limit
import ObjectStorage.Proofs.Layer.Traffic
import ObjectStorage.Proofs.Layer.Origin
import ObjectStorage.Proofs.Layer.Pager
import ObjectStorage.Proofs.Operator.Errors
import ObjectStorage.Proofs.Layer.Alike
import ObjectStorage.Proofs.Layer.Record
import ObjectStorage.Proofs.Layer.Attempts
import ObjectStorage.Proofs.Layer.Renamed
import ObjectStorage.Proofs.Object.Forms
import ObjectStorage.Proofs.Memory.Listing
import ObjectStorage.Proofs.Layer.Observer
import ObjectStorage.Proofs.FileTree.Walk
import ObjectStorage.Proofs.Fs.Missing
import ObjectStorage.Proofs.Text.Utf8
import ObjectStorage.Proofs.Url.Encoding
import ObjectStorage.Proofs.FileTree.Removal
import ObjectStorage.Proofs.Ipmfs.Node
import ObjectStorage.Proofs.Object.Deletion
import ObjectStorage.Proofs.Ipmfs.Reading
import ObjectStorage.Proofs.Service.Delivery
import ObjectStorage.Proofs.Layer.Retries
import ObjectStorage.Proofs.Path.Parent
import ObjectStorage.Proofs.Layer.Index
import ObjectStorage.Proofs.Object.Composed
import ObjectStorage.Proofs.Object.Steady
import ObjectStorage.Proofs.Object.Session
import ObjectStorage.Proofs.Object.Contract
import ObjectStorage.Proofs.Kv.Content
import ObjectStorage.Proofs.Kv.Isolation
import ObjectStorage.Proofs.Lister
import ObjectStorage.Proofs.Redis.Pattern
import ObjectStorage.Proofs.Text.Number
import ObjectStorage.Proofs.Redis.Scan
import ObjectStorage.Proofs.Memory.Tree
import ObjectStorage.Proofs.Command.Walk
import ObjectStorage.Proofs.Url.Verbatim
import ObjectStorage.Proofs.Url.Path
import ObjectStorage.Proofs.Redis.Credentials
import ObjectStorage.Proofs.FileTree.Leads
import ObjectStorage.Proofs.FileTree.Creation
import ObjectStorage.Proofs.Path.Spelling
import ObjectStorage.Proofs.Path.Segments
import ObjectStorage.Proofs.Path.Rooted
import ObjectStorage.Proofs.Path.Ancestors
import ObjectStorage.Proofs.Memory.Scan
import ObjectStorage.Proofs.Fs.Root
import ObjectStorage.Proofs.Host.Memory
import ObjectStorage.Proofs.Command.Copy
import ObjectStorage.Proofs.Command.Spelling
import ObjectStorage.Proofs.Fs.Paging
import ObjectStorage.Proofs.Object.Whole
import ObjectStorage.Proofs.Layer.Ledger
import ObjectStorage.Proofs.Layer.Logged
import ObjectStorage.Proofs.Layer.Journal
import ObjectStorage.Proofs.Layer.Visits
import ObjectStorage.Proofs.Metrics.Report
import ObjectStorage.Proofs.Metrics.Count
