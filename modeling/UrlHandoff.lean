import UrlHandoff.Text.Blank
import UrlHandoff.Text.Quoted
import UrlHandoff.Text.Octets
import UrlHandoff.Dictionary
import UrlHandoff.Session
import UrlHandoff.Document.Binary64
import UrlHandoff.Document.Moment
import UrlHandoff.Document.Span
import UrlHandoff.Settings.Loading
import UrlHandoff.CommandLine.Arguments
import UrlHandoff.Url.Domain
import UrlHandoff.Url.Address
import UrlHandoff.Url.Reading
import UrlHandoff.Program
import UrlHandoff.Main
import UrlHandoff.Proofs.CatalogLookup
import UrlHandoff.Proofs.SettingsLoading
import UrlHandoff.Proofs.UrlSelection
import UrlHandoff.Proofs.OutcomeIsolation
import UrlHandoff.Proofs.ExitStatus
import UrlHandoff.Proofs.ArgumentAccount
import UrlHandoff.Proofs.SettingsAcceptance
import UrlHandoff.Proofs.SettingsRoundTrip
import UrlHandoff.Proofs.LocaleNames
import UrlHandoff.Proofs.TranslationSearch
import UrlHandoff.Proofs.FileWriting
import UrlHandoff.Proofs.LaunchInsulation
import UrlHandoff.Proofs.OutcomeRecord
import UrlHandoff.Proofs.TaskHandling
import UrlHandoff.Proofs.LocaleOrder
import UrlHandoff.Proofs.SettingsSearch
import UrlHandoff.Proofs.LogSinks
import UrlHandoff.Proofs.LocaleRelisting
import UrlHandoff.Proofs.LocaleRespelling
import UrlHandoff.Proofs.CatalogPriority
import UrlHandoff.Proofs.LaunchErrorText
import UrlHandoff.Proofs.FirstFault
