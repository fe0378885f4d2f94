import EntityMapper.Ascending
import EntityMapper.CommandLine.Arguments
import EntityMapper.CommandLine.Grammar
import EntityMapper.CommandLine.Invocation
import EntityMapper.CommandLine.Run
import EntityMapper.CommandLine.Usage
import EntityMapper.Entries
import EntityMapper.Extraction.Catalogue
import EntityMapper.Extraction.Column
import EntityMapper.Extraction.FieldPath
import EntityMapper.Extraction.Mapping
import EntityMapper.Extraction.Override
import EntityMapper.Extraction.Schema
import EntityMapper.Extraction.Table
import EntityMapper.Extraction.Walk
import EntityMapper.Java.Layout
import EntityMapper.Java.Literal
import EntityMapper.Java.Name
import EntityMapper.Java.Syntax
import EntityMapper.Main
import EntityMapper.Manifest.Decode
import EntityMapper.Manifest.Diagnostic
import EntityMapper.Manifest.Document
import EntityMapper.Manifest.Locator
import EntityMapper.Manifest.Reader
import EntityMapper.Manifest.Validation
import EntityMapper.Mapper.Context
import EntityMapper.Mapper.Embedded
import EntityMapper.Mapper.File
import EntityMapper.Mapper.Part
import EntityMapper.Mapper.ToEntity
import EntityMapper.Mapper.ToRecord
import EntityMapper.MappingError
import EntityMapper.Metadata.Declaration
import EntityMapper.Metadata.Source
import EntityMapper.Naming.Catalog
import EntityMapper.Naming.Strategy
import EntityMapper.Proofs.Extraction.Build
import EntityMapper.Proofs.Extraction.Bulk
import EntityMapper.Proofs.Extraction.Columns
import EntityMapper.Proofs.Extraction.Constants
import EntityMapper.Proofs.Extraction.Converters
import EntityMapper.Proofs.Extraction.Cycles
import EntityMapper.Proofs.Extraction.DataTypes
import EntityMapper.Proofs.Extraction.Failure
import EntityMapper.Proofs.Extraction.Flattening
import EntityMapper.Proofs.Extraction.Identifiers
import EntityMapper.Proofs.Extraction.Inheritance
import EntityMapper.Proofs.Extraction.Interchange
import EntityMapper.Proofs.Extraction.Origins
import EntityMapper.Proofs.Extraction.Precedence
import EntityMapper.Proofs.Extraction.Prefixes
import EntityMapper.Proofs.Extraction.Rearranged
import EntityMapper.Proofs.Extraction.References
import EntityMapper.Proofs.Extraction.Schemas
import EntityMapper.Proofs.Extraction.Sources
import EntityMapper.Proofs.Extraction.Unannotated
import EntityMapper.Proofs.Extraction.Union
import EntityMapper.Proofs.Java.Layout
import EntityMapper.Proofs.Java.Name
import EntityMapper.Proofs.Java.StringLiteral
import EntityMapper.Proofs.Manifest.Distinct
import EntityMapper.Proofs.Manifest.Labels
import EntityMapper.Proofs.Manifest.Lookup
import EntityMapper.Proofs.Manifest.Reading
import EntityMapper.Proofs.Manifest.References
import EntityMapper.Proofs.Manifest.Wording
import EntityMapper.Proofs.Mapper.Assembly
import EntityMapper.Proofs.Mapper.Chain
import EntityMapper.Proofs.Mapper.Converters
import EntityMapper.Proofs.Mapper.Declarations
import EntityMapper.Proofs.Mapper.Evaluation
import EntityMapper.Proofs.Mapper.Grouping
import EntityMapper.Proofs.Mapper.Instances
import EntityMapper.Proofs.Mapper.Layout
import EntityMapper.Proofs.Mapper.Machine
import EntityMapper.Proofs.Mapper.Rebuild
import EntityMapper.Proofs.Mapper.References
import EntityMapper.Proofs.Mapper.RoundTrip
import EntityMapper.Proofs.Mapper.Script
import EntityMapper.Proofs.Mapper.Setters
import EntityMapper.Proofs.Mapper.TypeNames
import EntityMapper.Proofs.Naming.Confluence
import EntityMapper.Proofs.Naming.Constants
import EntityMapper.Proofs.Naming.Idempotence
import EntityMapper.Proofs.Naming.Identifiers
import EntityMapper.Proofs.Naming.Joining
import EntityMapper.Proofs.Naming.Pool
import EntityMapper.Proofs.Outcome
import EntityMapper.Proofs.Report.Agreement
import EntityMapper.Proofs.Report.Files
import EntityMapper.Proofs.Report.Placement
import EntityMapper.Proofs.Report.Preview
import EntityMapper.Proofs.Report.Rearranged
import EntityMapper.Proofs.Report.UnknownDialect
import EntityMapper.Proofs.Scope.Overlay
import EntityMapper.Proofs.Source.Emission
import EntityMapper.Proofs.Source.Indentation
import EntityMapper.Proofs.Source.Layout
import EntityMapper.Proofs.Source.Lines
import EntityMapper.Proofs.Storage.FileTree
import EntityMapper.Proofs.Storage.Path
import EntityMapper.Proofs.Table.Lookup
import EntityMapper.Proofs.Text.ByteOrder
import EntityMapper.Proofs.Text.CaseMapping
import EntityMapper.Proofs.Text.LetterCase
import EntityMapper.Proofs.Text.Segments
import EntityMapper.Proofs.TypeMapping.Inverse
import EntityMapper.Proofs.TypeMapping.Registration
import EntityMapper.Proofs.Walk.Cycles
import EntityMapper.Proofs.Walk.Instances
import EntityMapper.Proofs.Walk.LeafPath
import EntityMapper.Proofs.Walk.Leaves
import EntityMapper.Proofs.Walk.Levels
import EntityMapper.Proofs.Walk.Names
import EntityMapper.Proofs.Walk.Relation
import EntityMapper.Proofs.Walk.Variables
import EntityMapper.QueryLibrary
import EntityMapper.Report.Check
import EntityMapper.Report.Generate
import EntityMapper.Report.Inspect
import EntityMapper.Report.Json
import EntityMapper.Report.Line
import EntityMapper.Report.OperationError
import EntityMapper.Scope
import EntityMapper.Source.Buffer
import EntityMapper.Storage.FileTree
import EntityMapper.Storage.GeneratedFile
import EntityMapper.Storage.Path
import EntityMapper.Table.Basic
import EntityMapper.Table.Column
import EntityMapper.Table.Converter
import EntityMapper.Text.CaseTable
import EntityMapper.Text.Character
import EntityMapper.Text.PropertyTable
import EntityMapper.Text.Segments
import EntityMapper.Toml.Document
import EntityMapper.Toml.Scalar
import EntityMapper.Toml.Token
import EntityMapper.Toml.Value
import EntityMapper.TypeMapping.DefaultConverters
import EntityMapper.TypeMapping.Dialect
import EntityMapper.TypeMapping.Router
