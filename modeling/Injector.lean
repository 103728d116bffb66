import Injector.AccessorNames
import Injector.AnnotationUse
import Injector.DependencyGraph
import Injector.JavaType
import Injector.JavaType.SourceName
import Injector.Json
import Injector.Key
import Injector.Pass
import Injector.ProviderBinding
import Injector.Settings
import Injector.Settings.Document
import Injector.Text
import Injector.Text.Quoted
import Injector.Toml.Document
import Injector.Toml.Scalar
import Injector.Toml.Table
import Injector.Proofs.AccessorNames.Callable
import Injector.Proofs.AccessorNames.Identifier
import Injector.Proofs.AccessorNames.Ledger
import Injector.Proofs.AccessorNames.Namesakes
import Injector.Proofs.AccessorNames.Request
import Injector.Proofs.AccessorNames.Restart
import Injector.Proofs.AccessorNames.Search
import Injector.Proofs.AccessorNames.WrittenText
import Injector.Proofs.AnnotationUse.Assigning
import Injector.Proofs.AnnotationUse.Values
import Injector.Proofs.DependencyGraph.Build
import Injector.Proofs.DependencyGraph.Closing
import Injector.Proofs.DependencyGraph.EagerCycle
import Injector.Proofs.DependencyGraph.Forest
import Injector.Proofs.DependencyGraph.ThroughProvider
import Injector.Proofs.Digraph.Cycle
import Injector.Proofs.Entries
import Injector.Proofs.JavaType.Grammar
import Injector.Proofs.JavaType.Parts
import Injector.Proofs.JavaType.Reading
import Injector.Proofs.JavaType.Recognition
import Injector.Proofs.JavaType.WrittenForm
import Injector.Proofs.Json.Kind
import Injector.Proofs.Json.Parts
import Injector.Proofs.Json.RoundTrip
import Injector.Proofs.Json.Variation
import Injector.Proofs.MethodSource
import Injector.Proofs.Order
import Injector.Proofs.Pass.FailedEmission
import Injector.Proofs.Pass.Run
import Injector.Proofs.ProviderBinding.Blame
import Injector.Proofs.ProviderBinding.CreatorMethod
import Injector.Proofs.ProviderBinding.Emission
import Injector.Proofs.ProviderBinding.MethodLines
import Injector.Proofs.ProviderBinding.Unwrapping
import Injector.Proofs.Ranking
import Injector.Proofs.Settings.Identifiers
import Injector.Proofs.Settings.ProviderTypes
import Injector.Proofs.Text.Line
import Injector.Proofs.Text.Quoted
import Injector.Proofs.Text.Underscored
import Injector.Proofs.Text.Utf8
import Injector.Proofs.Text.Words
