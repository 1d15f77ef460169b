import TokenStream.Main
import TokenStream.Proofs.CharClass
import TokenStream.Proofs.Lexeme
import TokenStream.Proofs.Position
import TokenStream.Proofs.Boundary
import TokenStream.Proofs.Scanner
import TokenStream.Proofs.Cursor
import TokenStream.Proofs.Stream
import TokenStream.Proofs.Coverage
import TokenStream.Proofs.Segmentation
import TokenStream.Proofs.Resumption
import TokenStream.Proofs.Concatenation
import TokenStream.Proofs.LineOrder
import TokenStream.Proofs.Resynchronization
import TokenStream.Proofs.ClassDependence
import TokenStream.Proofs.Rendering
import TokenStream.Proofs.PlacedRendering
import TokenStream.Proofs.Json.Grammar
import TokenStream.Proofs.Json.Unambiguity
import TokenStream.Proofs.Json.Written
import TokenStream.Proofs.Json.TokenList
import TokenStream.Proofs.Files
import TokenStream.Proofs.Trace
import TokenStream.Proofs.Progress
import TokenStream.Proofs.Slicing
import TokenStream.Proofs.Stages
import TokenStream.Proofs.Independence
import TokenStream.Proofs.Json.Form
import TokenStream.Proofs.Json.Taking
import TokenStream.Proofs.Json.Skipping
import TokenStream.Proofs.Json.Shape
import TokenStream.Proofs.Json.Continuation
import TokenStream.Proofs.Json.Bindings
import TokenStream.Proofs.Json.Record
import TokenStream.Proofs.Settings
import TokenStream.Proofs.Layers
import TokenStream.Proofs.LowerCase
import TokenStream.Proofs.Names
import TokenStream.Proofs.Filter
import TokenStream.Proofs.Contents
import TokenStream.Proofs.Arguments
