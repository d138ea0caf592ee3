import SigilLookup.Assembly
import SigilLookup.FileSystem.Disk
import SigilLookup.FileSystem.Listing
import SigilLookup.Proofs.Assembly.Failure
import SigilLookup.Proofs.Assembly.Sequential
import SigilLookup.Proofs.Document.Format
import SigilLookup.Proofs.FileSystem.Readings
import SigilLookup.Proofs.Fleet.Questions
import SigilLookup.Proofs.Key.Display
import SigilLookup.Proofs.Key.Strictness
import SigilLookup.Proofs.Loader.Directories
import SigilLookup.Proofs.Loader.Documents
import SigilLookup.Proofs.OrderedMap.Union
import SigilLookup.Proofs.Registration.Batch
import SigilLookup.Proofs.Registration.Keeper
import SigilLookup.Proofs.Registration.Order
import SigilLookup.Proofs.Registration.Tables
import SigilLookup.Proofs.Resolver.Messages
import SigilLookup.Proofs.Resolver.Reach
import SigilLookup.Proofs.Session.Account
import SigilLookup.Proofs.Session.RuntimeReads
import SigilLookup.Proofs.Settings.EnvironmentLists
import SigilLookup.Proofs.Settings.Fieldwise
import SigilLookup.Proofs.Value.Serialized
import SigilLookup.Settings.Load
import SigilLookup.Settings.Record
