import TransferGateway.Admission.Interleaving
import TransferGateway.Handoff.Database
import TransferGateway.Main
import TransferGateway.Proofs.Admission.Guards
import TransferGateway.Proofs.Admission.Overflow
import TransferGateway.Proofs.Admission.Pacing
import TransferGateway.Proofs.Admission.Rounds
import TransferGateway.Proofs.Admission.Verdicts
import TransferGateway.Proofs.Command.Classification
import TransferGateway.Proofs.Deployment.BlockSizes
import TransferGateway.Proofs.Deployment.Construction
import TransferGateway.Proofs.Execution.Account
import TransferGateway.Proofs.Execution.Tokens
import TransferGateway.Proofs.Execution.Watchdog
import TransferGateway.Proofs.Handoff.Accounting
import TransferGateway.Proofs.Handoff.Canonical
import TransferGateway.Proofs.Handoff.Grammar
import TransferGateway.Proofs.Handoff.Ledger
import TransferGateway.Proofs.Handoff.Trace
import TransferGateway.Proofs.Hook.Actions
import TransferGateway.Proofs.Hook.Aftermath
import TransferGateway.Proofs.Hook.Gate
import TransferGateway.Proofs.Hook.HeldRounds
import TransferGateway.Proofs.Hook.Redirection
import TransferGateway.Proofs.Hook.Reply
import TransferGateway.Proofs.Policy.History
import TransferGateway.Proofs.Template.Arguments
import TransferGateway.Proofs.Template.Finiteness
import TransferGateway.Proofs.Template.Layout
import TransferGateway.Proofs.Template.RoundCount
