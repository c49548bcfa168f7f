import ShellTemplate.Main
import ShellTemplate.Proofs.AcceptedTemplates
import ShellTemplate.Proofs.BlankBoundaries
import ShellTemplate.Proofs.BracedRuns
import ShellTemplate.Proofs.BuildOutcomes
import ShellTemplate.Proofs.CallTraces
import ShellTemplate.Proofs.CheckedNormalForms
import ShellTemplate.Proofs.CheckedSubstitutions
import ShellTemplate.Proofs.ComponentPlaces
import ShellTemplate.Proofs.DryRun
import ShellTemplate.Proofs.EscapedWords
import ShellTemplate.Proofs.FaithfulSubstitution
import ShellTemplate.Proofs.FirstWord
import ShellTemplate.Proofs.IndependentComponents
import ShellTemplate.Proofs.JsonContract
import ShellTemplate.Proofs.LiteralBuild
import ShellTemplate.Proofs.OfferedOptions
import ShellTemplate.Proofs.OperatorIntegrity
import ShellTemplate.Proofs.OptionFlags
import ShellTemplate.Proofs.PlaceholderAlignment
import ShellTemplate.Proofs.QuotedRuns
import ShellTemplate.Proofs.RecordedIds
import ShellTemplate.Proofs.RedirectedBuild
import ShellTemplate.Proofs.RenderRoundTrip
import ShellTemplate.Proofs.ReportedChanges
import ShellTemplate.Proofs.RespelledChecks
import ShellTemplate.Proofs.RestatedUpdates
import ShellTemplate.Proofs.SecuritySpacing
import ShellTemplate.Proofs.SessionIndependence
import ShellTemplate.Proofs.StrictSessions
import ShellTemplate.Proofs.TemplateBuild
import ShellTemplate.Proofs.UpdateContinuity
import ShellTemplate.Proofs.UpdatedFields
import ShellTemplate.Proofs.WellFormedComponents
import ShellTemplate.Proofs.WordGrammar
