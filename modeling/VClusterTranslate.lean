import VClusterTranslate.Go.Library
import VClusterTranslate.Go.Range
import VClusterTranslate.Types
import VClusterTranslate.Merge.ApplyMaps
import VClusterTranslate.Merge.Ledger
import VClusterTranslate.Metadata.Annotations
import VClusterTranslate.Naming.Names
import VClusterTranslate.Labels.KeyTranslation
import VClusterTranslate.Labels.Maps
import VClusterTranslate.Labels.Selector
import VClusterTranslate.Labels.ConcurrentStore
import VClusterTranslate.Metadata.Objects
import VClusterTranslate.Metadata.Sync
import VClusterTranslate.Schema.EnsureCRD
import VClusterTranslate.Registry.Push
