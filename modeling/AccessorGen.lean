import AccessorGen.Main
import AccessorGen.Proofs.ArgumentGrammar
import AccessorGen.Proofs.QualifiedName
import AccessorGen.Proofs.AnnotationParsing
import AccessorGen.Proofs.SynthesizedAnnotation
import AccessorGen.Proofs.ManifestChecking
import AccessorGen.Proofs.Acceptance
import AccessorGen.Proofs.Identifier
import AccessorGen.Proofs.Metadata
import AccessorGen.Proofs.PropertyNameFaults
import AccessorGen.Proofs.Checks
import AccessorGen.Proofs.FirstFault
import AccessorGen.Proofs.SourceVersion
import AccessorGen.Proofs.WrittenManifest
import AccessorGen.Proofs.Lookup
import AccessorGen.Proofs.Regeneration
import AccessorGen.Proofs.MetadataReport
import AccessorGen.Proofs.RenderedText
import AccessorGen.Proofs.LineCount
import AccessorGen.Proofs.Printing
import AccessorGen.Proofs.Verbosity
import AccessorGen.Proofs.RunOutcomes
import AccessorGen.Proofs.FeatureReport
import AccessorGen.Proofs.Generation
import AccessorGen.Proofs.LiteralReading
import AccessorGen.Proofs.Rearrangement
import AccessorGen.Proofs.Registration
import AccessorGen.Proofs.LevelDependence
import AccessorGen.Proofs.PropertyCollisions
import AccessorGen.Proofs.AnnotationCalls
import AccessorGen.Proofs.IdentifierSegments
import AccessorGen.Proofs.WriterRuns
import AccessorGen.Proofs.Placement
import AccessorGen.Proofs.ByteCuts
