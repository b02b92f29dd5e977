import RouterCard.Interaction.Server
import RouterCard.Interaction.Contract
import RouterCard.Text.Pattern
import RouterCard.Captived.System
import RouterCard.Captived.FirmwareManager
import RouterCard.Captived.Rest.Resource
import RouterCard.Captived.Main
import RouterCard.Captived.Daemon
import RouterCard.Captived.Answers
import RouterCard.Captived.UpdateState
import RouterCard.Captived.Handlers
import RouterCard.Captived.Installers
import RouterCard.Captived.DownloadReport
import RouterCard.Captived.Exclusion
import RouterCard.Captived.Reaping
import RouterCard.Shell.Lexer
import RouterCard.Shell.SimpleCommand
import RouterCard.Captived.InstallCommand
import RouterCard.Captived.Alone
import RouterCard.Captived.BootMode
import RouterCard.Captived.InstallRequest
import RouterCard.Captived.WifiStore
import RouterCard.Captived.WifiLaw
import RouterCard.Captived.WifiReload
import RouterCard.Captived.Aggregates
import RouterCard.Captived.Http
import RouterCard.Captived.Admission
import RouterCard.Captived.TextAnswers
import RouterCard.OnesComplement.EndAround
import RouterCard.OnesComplement.WordSum
import RouterCard.Xbridge.Memory
import RouterCard.Xbridge.Bridge
import RouterCard.Xbridge.Steps
import RouterCard.Xbridge.Solicitation
import RouterCard.Xbridge.Recognition
import RouterCard.Xbridge.Advertisement
import RouterCard.Xbridge.Callback
import RouterCard.Xbridge.Bounds
import RouterCard.Xbridge.Transparency
import RouterCard.Xbridge.Frames
import RouterCard.Interaction.Insertion
import RouterCard.Captived.SafeGet
import RouterCard.Xbridge.Replies
import RouterCard.Text.Numerals
import RouterCard.Captived.InstallStatus
import RouterCard.Captived.StateEvaluation
import RouterCard.Captived.ModeNames
import RouterCard.Captived.RebootDecision
import RouterCard.Captived.AtomicWrite
import RouterCard.Captived.MissingHash
import RouterCard.Captived.ReportedHash
import RouterCard.Captived.SecureLan
import RouterCard.Xbridge.ChecksumLaw
import RouterCard.Captived.CommandOutput
import RouterCard.UsbGadget.IdentityFiles
import RouterCard.Text.Strtol
import RouterCard.Captived.MainLoop
import RouterCard.Captived.ArtifactName
import RouterCard.Captived.AdvertisedUri
import RouterCard.Captived.WifiReport
import RouterCard.Picosha2.HexString
import RouterCard.Captived.ConfigHash
import RouterCard.Captived.HttpServer
import RouterCard.Captived.LifeCycle
import RouterCard.Xbridge.EndToEnd
import RouterCard.Interaction.Protocol
import RouterCard.UsbGadget.Gadget
import RouterCard.UsbGadget.GadgetProtocol
import RouterCard.Xbridge.MacText
