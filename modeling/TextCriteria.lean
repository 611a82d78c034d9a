import TextCriteria.Failure.Given
import TextCriteria.Requirement.Standard
import TextCriteria.Proofs.Builder.NumberRule
import TextCriteria.Proofs.Builder.RuleString
import TextCriteria.Proofs.Document.Spelling
import TextCriteria.Proofs.Format.Date
import TextCriteria.Proofs.Format.Mail
import TextCriteria.Proofs.Format.Network
import TextCriteria.Proofs.Format.Phone
import TextCriteria.Proofs.Format.Web
import TextCriteria.Proofs.Log.FailedSetUp
import TextCriteria.Proofs.Preset.Case
import TextCriteria.Proofs.Preset.Names
import TextCriteria.Proofs.Requirement.AnyClass
import TextCriteria.Proofs.Requirement.Format
import TextCriteria.Proofs.Session.Snapshot
import TextCriteria.Proofs.Settings.History
import TextCriteria.Proofs.Settings.Precedence
