import ServiceTypes.Main
import ServiceTypes.Proofs.Classification
import ServiceTypes.Proofs.Closure
import ServiceTypes.Proofs.CommandLine.DerivedName
import ServiceTypes.Proofs.CommandLine.PlainFiles
import ServiceTypes.Proofs.CommandLine.WrittenLine
import ServiceTypes.Proofs.CoverAlgebra
import ServiceTypes.Proofs.DeclaredNames
import ServiceTypes.Proofs.History
import ServiceTypes.Proofs.Json.Modules
import ServiceTypes.Proofs.Locality
import ServiceTypes.Proofs.MethodKinds
import ServiceTypes.Proofs.Names
import ServiceTypes.Proofs.Nullability
import ServiceTypes.Proofs.Renaming
import ServiceTypes.Proofs.Sdl.LastDefinition
import ServiceTypes.Proofs.Source.Assembly
import ServiceTypes.Proofs.Source.Determinacy
