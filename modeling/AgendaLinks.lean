import AgendaLinks.Log.Template
import AgendaLinks.Main
import AgendaLinks.Proofs.Command.Outcome
import AgendaLinks.Proofs.Configuration.Schema
import AgendaLinks.Proofs.Link.Accounts
import AgendaLinks.Proofs.Listing.RoundTrip
import AgendaLinks.Session
import AgendaLinks.Proofs.Listing.Origins
import AgendaLinks.Proofs.Time.Days
import AgendaLinks.Proofs.Listing.Windows
import AgendaLinks.Proofs.Command.Selection
import AgendaLinks.Proofs.Command.Failures
import AgendaLinks.Proofs.Configuration.Rejection
import AgendaLinks.Proofs.Regexp.Steps
import AgendaLinks.Proofs.Regexp.Openings
import AgendaLinks.Proofs.Regexp.Faults
import AgendaLinks.Proofs.Configuration.Causes
import AgendaLinks.Proofs.Listing.Dates
import AgendaLinks.Proofs.Listing.Progress
import AgendaLinks.Proofs.Time.Overlap
import AgendaLinks.Proofs.Text.Digits
import AgendaLinks.Proofs.Time.Printed
import AgendaLinks.Proofs.Listing.DateLines
import AgendaLinks.Proofs.Listing.Splits
import AgendaLinks.Proofs.Listing.Blocks
import AgendaLinks.Proofs.Listing.Continuations
import AgendaLinks.Proofs.Text.Utf8
import AgendaLinks.Proofs.Link.Fragments
import AgendaLinks.Proofs.Link.Rewriting
import AgendaLinks.Proofs.Link.Hosts
import AgendaLinks.Proofs.Shell.Words
import AgendaLinks.Proofs.Link.Scores
import AgendaLinks.Proofs.Markup.Tags
import AgendaLinks.Proofs.Link.StrayTags
import AgendaLinks.Proofs.Configuration.Conditions
import AgendaLinks.Proofs.Listing.Calendars
import AgendaLinks.Proofs.Session
import AgendaLinks.Proofs.Log.Template
import AgendaLinks.Proofs.Number.Places
import AgendaLinks.Proofs.Time.Zones
