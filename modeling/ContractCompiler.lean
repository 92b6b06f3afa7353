import ContractCompiler.Contract.Builder
import ContractCompiler.Main
import ContractCompiler.Proofs.Command.Agreement
import ContractCompiler.Proofs.Compiler.Success
import ContractCompiler.Proofs.Contract.Builder
import ContractCompiler.Proofs.Contract.Check
import ContractCompiler.Proofs.Contract.Load
import ContractCompiler.Proofs.Layout.Confinement
import ContractCompiler.Proofs.Layout.Order
import ContractCompiler.Proofs.Layout.Relative
import ContractCompiler.Proofs.Manifest.Built
import ContractCompiler.Proofs.Module.Binding
import ContractCompiler.Proofs.Module.Capability
import ContractCompiler.Proofs.Module.Comment
import ContractCompiler.Proofs.Module.FieldSchema
import ContractCompiler.Proofs.Module.Legality
import ContractCompiler.Proofs.Module.Order
import ContractCompiler.Proofs.Module.References
import ContractCompiler.Proofs.Module.Reordering
import ContractCompiler.Proofs.Module.Representation
import ContractCompiler.Proofs.Module.SchemaText
import ContractCompiler.Proofs.Module.WholeModule
import ContractCompiler.Proofs.Project.Registration
import ContractCompiler.Proofs.Text.Replacement
import ContractCompiler.Proofs.TypeTag.Canonical
