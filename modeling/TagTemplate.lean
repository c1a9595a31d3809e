import TagTemplate.Main
import TagTemplate.Proofs.Precompile.Agreement
import TagTemplate.Proofs.Precompile.Atomicity
import TagTemplate.Proofs.Precompile.Completeness
import TagTemplate.Proofs.Template.Scanning
import TagTemplate.Proofs.Template.Markup
import TagTemplate.Proofs.Discovery.Listed
import TagTemplate.Proofs.FileTree.DeadEnd
import TagTemplate.Proofs.Numeral
import TagTemplate.Proofs.Precompile.Crowd
import TagTemplate.Proofs.Precompile.Idempotence
import TagTemplate.Proofs.Precompile.Serial
import TagTemplate.Proofs.Template.Call
import TagTemplate.Proofs.Bundle.Readback
import TagTemplate.Proofs.Template.Nesting
import TagTemplate.Proofs.Template.Quotation
import TagTemplate.Proofs.Precompile.Succession
import TagTemplate.Proofs.Precompile.Cancellation
import TagTemplate.Proofs.Template.Attribution
import TagTemplate.Proofs.Template.Dependence
import TagTemplate.Proofs.Template.Spelling
import TagTemplate.Proofs.Precompile.Frame
import TagTemplate.Proofs.Template.Fallback
import TagTemplate.Proofs.Template.Operands
import TagTemplate.Proofs.Template.PathGrammar
import TagTemplate.Proofs.Template.QuotedWord
import TagTemplate.Proofs.Precompile.Diagnosis
import TagTemplate.Proofs.Helper.Refusal
import TagTemplate.Proofs.Helper.Wrapping
import TagTemplate.Proofs.Helper.Stripping
import TagTemplate.Proofs.Helper.Slugs
import TagTemplate.Proofs.Helper.Padding
import TagTemplate.Proofs.Helper.Cutting
import TagTemplate.Proofs.Helper.Joining
import TagTemplate.Proofs.Helper.Replacing
import TagTemplate.Proofs.Format.Escape
import TagTemplate.Proofs.Format.Acceptance
import TagTemplate.Proofs.Format.Integers
import TagTemplate.Proofs.Template.Entities
import TagTemplate.Proofs.Helper.Dates
import TagTemplate.Proofs.Discovery.FirstFlaw
import TagTemplate.Proofs.Bundle.Draft
import TagTemplate.Proofs.Lock
import TagTemplate.Proofs.Template.Marker
import TagTemplate.Proofs.Config
import TagTemplate.Proofs.Lock.Waiting
import TagTemplate.Proofs.Bundle.Literal
import TagTemplate.Proofs.Template.Stream
import TagTemplate.Proofs.Format.Grouping
