import DeliveryDesk.Client.Basic
import DeliveryDesk.CommandLine.Program
import DeliveryDesk.Console.Basic
import DeliveryDesk.Main
import DeliveryDesk.Settings.Document
import DeliveryDesk.Yaml.Printing
import DeliveryDesk.Proofs.Url.Appending
import DeliveryDesk.Proofs.Inspector.Run
import DeliveryDesk.Proofs.Inspector.Display
import DeliveryDesk.Proofs.Inspector.Tickets
import DeliveryDesk.Proofs.Inspector.Halves
import DeliveryDesk.Proofs.Json.Meaning
import DeliveryDesk.Proofs.Inspector.Panel
import DeliveryDesk.Proofs.Transcript
import DeliveryDesk.Proofs.Console.Run
import DeliveryDesk.Proofs.Console.Course
import DeliveryDesk.Proofs.Console.Listing
import DeliveryDesk.Proofs.Console.Reports
import DeliveryDesk.Proofs.Console.Views
import DeliveryDesk.Proofs.Console.Calls
import DeliveryDesk.Proofs.Console.Dispatch
import DeliveryDesk.Proofs.Console.Polls
import DeliveryDesk.Proofs.Console.Offers
import DeliveryDesk.Proofs.Console.Logs
import DeliveryDesk.Proofs.Client.Addresses
import DeliveryDesk.Proofs.Client.Answers
import DeliveryDesk.Proofs.Client.Details
import DeliveryDesk.Proofs.Model.Fields
import DeliveryDesk.Proofs.Model.RoundTrip
import DeliveryDesk.Proofs.Console.Secrecy
import DeliveryDesk.Proofs.Form.EventTypes
import DeliveryDesk.Proofs.Form.Requests
import DeliveryDesk.Proofs.CommandLine.Reporting
import DeliveryDesk.Proofs.CommandLine.Output
import DeliveryDesk.Proofs.Time.Offsets
import DeliveryDesk.Proofs.Time.Rereading
import DeliveryDesk.Proofs.Text.Numbers
import DeliveryDesk.Proofs.Settings.Editing
import DeliveryDesk.Proofs.CommandLine.Edits
import DeliveryDesk.Proofs.Toml.Strings
import DeliveryDesk.Proofs.Toml.Readers
import DeliveryDesk.Proofs.Toml.Documents
import DeliveryDesk.Proofs.Files.Written
import DeliveryDesk.Proofs.Settings.Storing
import DeliveryDesk.Proofs.CommandLine.Persistence
import DeliveryDesk.Proofs.Url.HostNames
import DeliveryDesk.Proofs.Url.WebAddresses
import DeliveryDesk.Proofs.CommandLine.Addresses
