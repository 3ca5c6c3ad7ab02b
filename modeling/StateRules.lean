import StateRules.Binding
import StateRules.Guard
import StateRules.Machine
import StateRules.Proofs.Table.Catalog
import StateRules.Proofs.Table.Commutation
import StateRules.Proofs.Table.Conservation
import StateRules.Proofs.Table.Coverage
import StateRules.Proofs.Table.Grouping
import StateRules.Proofs.Table.Legibility
import StateRules.Proofs.Table.Opacity
import StateRules.Proofs.Table.Precedence
import StateRules.Proofs.Table.Rebuild
import StateRules.Proofs.Table.Refusal
import StateRules.Proofs.Table.Run
import StateRules.Proofs.Table.Soundness
import StateRules.Proofs.Table.Steering
import StateRules.Proofs.Table.Wildcard
import StateRules.Proofs.Machine.Laziness
import StateRules.Proofs.Declaration.Doubts
import StateRules.Proofs.Declaration.Plain
import StateRules.Proofs.Entity.Attachment
import StateRules.Proofs.Machine.FrontEnds
import StateRules.Proofs.Table.Containment
import StateRules.Proofs.Table.Language
import StateRules.Proofs.Machine.Foresight
import StateRules.Proofs.Table.Reguarding
import StateRules.Proofs.Machine.GuardCalls
import StateRules.Proofs.Entity.Copies
import StateRules.Proofs.Entity.LateFields
import StateRules.Proofs.Entity.Renewal
import StateRules.Proofs.Entity.SelfEquality
import StateRules.Proofs.Entity.Counterparts
import StateRules.Proofs.Entity.Lens
import StateRules.Proofs.Declaration.Advice
import StateRules.Proofs.Table.Advice
import StateRules.Proofs.Declaration.Silence
import StateRules.Proofs.Table.BuildLog
import StateRules.Proofs.Entity.Silence
import StateRules.Proofs.Machine.Scripts
import StateRules.Proofs.Table.TransitLog
import StateRules.Proofs.Text.Lines
import StateRules.Proofs.Text.Quoted
import StateRules.Proofs.Text.Spacing
import StateRules.Proofs.Declaration.Layout
import StateRules.Proofs.Declaration.Messages
import StateRules.Proofs.Declaration.Nesting
import StateRules.Proofs.Declaration.Recovery
import StateRules.Proofs.Declaration.Unambiguity
import StateRules.Proofs.Table.Omission
import StateRules.Proofs.Table.Recall
import StateRules.Proofs.Table.Repetition
