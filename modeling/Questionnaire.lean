import Questionnaire.CommandLine.Commands
import Questionnaire.Main
import Questionnaire.Proofs.Hop
import Questionnaire.Proofs.Printing
import Questionnaire.Proofs.Record
import Questionnaire.Proofs.Restore
import Questionnaire.Proofs.Validity
import Questionnaire.Proofs.Watch
import Questionnaire.Proofs.Format
import Questionnaire.Proofs.Persistence
import Questionnaire.Proofs.Pick
import Questionnaire.Proofs.Dialogue
import Questionnaire.Proofs.Bytes
import Questionnaire.Proofs.Prompts
import Questionnaire.Proofs.Completeness
import Questionnaire.Proofs.Extension
import Questionnaire.Proofs.Notice
import Questionnaire.Proofs.Queue
import Questionnaire.Proofs.Exclusion
import Questionnaire.Proofs.Renewal
import Questionnaire.Proofs.Cascade
import Questionnaire.Proofs.Undo
import Questionnaire.Proofs.Location
import Questionnaire.Proofs.Shorthand
import Questionnaire.Proofs.Jump
import Questionnaire.Proofs.Submission
import Questionnaire.Proofs.Inline
import Questionnaire.Proofs.Substitution
import Questionnaire.Proofs.Rearrangement
import Questionnaire.Proofs.Skipped
import Questionnaire.Proofs.Naming
import Questionnaire.Proofs.Trigger
import Questionnaire.Proofs.Registry
import Questionnaire.Proofs.ControlName
import Questionnaire.Proofs.Reentry
