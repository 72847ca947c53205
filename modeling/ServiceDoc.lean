import ServiceDoc.Json.Text
import ServiceDoc.Json.Reader
import ServiceDoc.Swagger.Document
import ServiceDoc.Csdl.Reading
import ServiceDoc.Main
import ServiceDoc.Proofs.Csdl.Table
import ServiceDoc.Proofs.Xml.WrittenElement
import ServiceDoc.Proofs.Xml.RoundTrip
import ServiceDoc.Proofs.Csdl.RoundTrip
import ServiceDoc.Proofs.Csdl.Resolution
import ServiceDoc.Proofs.Json.Members
import ServiceDoc.Proofs.Swagger.References
import ServiceDoc.Proofs.Swagger.Agreement
import ServiceDoc.Proofs.Swagger.PathEntries
import ServiceDoc.Proofs.Swagger.PathTemplate
import ServiceDoc.Proofs.Json.WrittenLeaf
import ServiceDoc.Proofs.Json.Ascii
import ServiceDoc.Proofs.FileTree.Write
import ServiceDoc.Proofs.Output.Document
import ServiceDoc.Proofs.CommandLine.Course
import ServiceDoc.Proofs.Http.Chain
import ServiceDoc.Proofs.Source.Service
import ServiceDoc.Proofs.CommandLine.Publication
import ServiceDoc.Proofs.Xml.DeclaredEncoding
import ServiceDoc.Proofs.CommandLine.Unreadable
import ServiceDoc.Proofs.Xml.Head
import ServiceDoc.Proofs.Xml.Latin
import ServiceDoc.Proofs.Csdl.Latin
import ServiceDoc.Proofs.Csdl.Omissions
import ServiceDoc.Proofs.Csdl.SchemaOrder
import ServiceDoc.Proofs.Swagger.SchemaOrder
import ServiceDoc.Proofs.FileTree.Repetition
import ServiceDoc.Proofs.Output.Repetition
import ServiceDoc.Proofs.CommandLine.Repetition
import ServiceDoc.Proofs.Uri.Metadata
import ServiceDoc.Proofs.Swagger.Concatenation
import ServiceDoc.Proofs.Swagger.OperationIds
import ServiceDoc.Proofs.Uri.Extension
import ServiceDoc.Proofs.CommandLine.Unloadable
import ServiceDoc.Proofs.Xml.TagName
import ServiceDoc.Proofs.Csdl.Edits
import ServiceDoc.Proofs.Csdl.Keys
import ServiceDoc.Proofs.Text.Cut
import ServiceDoc.Proofs.Output.Title
import ServiceDoc.Proofs.Script.StringLiteral
import ServiceDoc.Proofs.Script.Element
import ServiceDoc.Proofs.Output.LoadedFile
import ServiceDoc.Proofs.Swagger.PropertyOrder
import ServiceDoc.Proofs.Output.Failure
import ServiceDoc.Proofs.CommandLine.Fallback
import ServiceDoc.Proofs.CommandLine.ErrorLine
