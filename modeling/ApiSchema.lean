import ApiSchema.Annotation
import ApiSchema.Builder
import ApiSchema.CommandLine
import ApiSchema.Config
import ApiSchema.Declaration
import ApiSchema.Declaration.Reading
import ApiSchema.Document
import ApiSchema.Document.Encoding
import ApiSchema.Error
import ApiSchema.Form
import ApiSchema.Import
import ApiSchema.Instance
import ApiSchema.Json.Reader
import ApiSchema.Json.Value
import ApiSchema.Json.Writer
import ApiSchema.Main
import ApiSchema.Manifest
import ApiSchema.Naming
import ApiSchema.Number.Binary64
import ApiSchema.Number.Decimal
import ApiSchema.Number.Word
import ApiSchema.Path
import ApiSchema.Primitive
import ApiSchema.Project
import ApiSchema.Record
import ApiSchema.Registry
import ApiSchema.Resolution
import ApiSchema.Schema
import ApiSchema.Schema.Encoding
import ApiSchema.Source.AttributeRules
import ApiSchema.Source.ExprRules
import ApiSchema.Source.File
import ApiSchema.Source.Grammar
import ApiSchema.Source.ItemRules
import ApiSchema.Source.Lexer
import ApiSchema.Source.Parser
import ApiSchema.Source.PatternRules
import ApiSchema.Source.Token
import ApiSchema.Source.Tree
import ApiSchema.Source.TypeRules
import ApiSchema.Synthesis
import ApiSchema.Table
import ApiSchema.Tag
import ApiSchema.Text.Blank
import ApiSchema.Text.Case
import ApiSchema.Text.CaseRanges
import ApiSchema.Text.Identifier
import ApiSchema.Text.IdentifierRanges
import ApiSchema.Text.Split
import ApiSchema.TypeExpr
import ApiSchema.TypeExpr.Reading
import ApiSchema.Yaml.Reader
import ApiSchema.Yaml.Writer
import ApiSchema.Proofs.AnnotatedReferences
import ApiSchema.Proofs.AnnotationConflicts
import ApiSchema.Proofs.Annotations
import ApiSchema.Proofs.BoundArguments
import ApiSchema.Proofs.BuilderRules
import ApiSchema.Proofs.CanonicalValues
import ApiSchema.Proofs.CaseConversion
import ApiSchema.Proofs.Closure
import ApiSchema.Proofs.Consistency
import ApiSchema.Proofs.Coverage
import ApiSchema.Proofs.DefinitionNames
import ApiSchema.Proofs.DocumentRoundTrip
import ApiSchema.Proofs.EarlierNames
import ApiSchema.Proofs.Failures
import ApiSchema.Proofs.Flattening
import ApiSchema.Proofs.Formats
import ApiSchema.Proofs.Fuel
import ApiSchema.Proofs.GlobalNames
import ApiSchema.Proofs.HandleResolution
import ApiSchema.Proofs.HandleRuns
import ApiSchema.Proofs.HandleSynthesis
import ApiSchema.Proofs.Handles
import ApiSchema.Proofs.IdentifierCharacters
import ApiSchema.Proofs.ImportLeaves
import ApiSchema.Proofs.IndexedFiles
import ApiSchema.Proofs.InlineDepth
import ApiSchema.Proofs.Instances
import ApiSchema.Proofs.KeptAnswers
import ApiSchema.Proofs.LiteralTypes
import ApiSchema.Proofs.LoadOutcomes
import ApiSchema.Proofs.Loading
import ApiSchema.Proofs.Lookups
import ApiSchema.Proofs.MemberMerge
import ApiSchema.Proofs.MemberVisits
import ApiSchema.Proofs.MemoEntries
import ApiSchema.Proofs.OrderIndependence
import ApiSchema.Proofs.PackageTables
import ApiSchema.Proofs.PairedRuns
import ApiSchema.Proofs.PrintedPaths
import ApiSchema.Proofs.PrintedTokens
import ApiSchema.Proofs.PrintedTypes
import ApiSchema.Proofs.PublishedPaths
import ApiSchema.Proofs.ReadingBack
import ApiSchema.Proofs.References
import ApiSchema.Proofs.RegistryGrowth
import ApiSchema.Proofs.RepeatedFailures
import ApiSchema.Proofs.RepeatedRequests
import ApiSchema.Proofs.Repetition
import ApiSchema.Proofs.Requests
import ApiSchema.Proofs.RequiredNames
import ApiSchema.Proofs.ResolutionRules
import ApiSchema.Proofs.RollbackReach
import ApiSchema.Proofs.SchemaKeywords
import ApiSchema.Proofs.SchemaRoundTrip
import ApiSchema.Proofs.StaticRuns
import ApiSchema.Proofs.StoredSchemas
import ApiSchema.Proofs.Substitution
import ApiSchema.Proofs.SynonymAnnotations
import ApiSchema.Proofs.SynonymSites
import ApiSchema.Proofs.SynonymUses
import ApiSchema.Proofs.SynthesisClosure
import ApiSchema.Proofs.SynthesisRules
import ApiSchema.Proofs.Table
import ApiSchema.Proofs.Termination
import ApiSchema.Proofs.TypeRoundTrip
import ApiSchema.Proofs.UseShapes
import ApiSchema.Proofs.UseSites
import ApiSchema.Proofs.VariantNumbers
import ApiSchema.Proofs.WholeNumbers
import ApiSchema.Proofs.WrittenNames
import ApiSchema.Proofs.WrittenRules
import ApiSchema.Proofs.WrittenTokens
