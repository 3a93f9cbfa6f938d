import Smile2Unlock.Lib.Trace
import Smile2Unlock.Lib.Machine
import Smile2Unlock.Lib.FirstMax
import Smile2Unlock.Lib.Queue
import Smile2Unlock.Lib.Handles
import Smile2Unlock.Common.Text
import Smile2Unlock.Common.Packets
import Smile2Unlock.Service.Database
import Smile2Unlock.Service.FaceRecognition
import Smile2Unlock.Service.Decision
import Smile2Unlock.Service.Runs
import Smile2Unlock.Service.History
import Smile2Unlock.Service.Guarantees
import Smile2Unlock.Service.Backend
import Smile2Unlock.CredentialProvider.StatusRegister
import Smile2Unlock.CredentialProvider.StatusSteps
import Smile2Unlock.CredentialProvider.AuthSend
import Smile2Unlock.CredentialProvider.Serialization
import Smile2Unlock.CredentialProvider.Credential
import Smile2Unlock.CredentialProvider.Process
import Smile2Unlock.CredentialProvider.StopTasks
import Smile2Unlock.CredentialProvider.OwnResult
import Smile2Unlock.CredentialProvider.Account
import Smile2Unlock.SignIn.RecognizedName
import Smile2Unlock.SignIn.Attempt
import Smile2Unlock.CredentialProvider.Cancel
import Smile2Unlock.CredentialProvider.Lifetime
import Smile2Unlock.CredentialProvider.Provider
import Smile2Unlock.Common.Crypto
import Smile2Unlock.Lib.Split
import Smile2Unlock.Storage.KeyFile
import Smile2Unlock.Storage.Password
import Smile2Unlock.Storage.Migration
import Smile2Unlock.Common.Numbers
import Smile2Unlock.GuiIpc.Handler
import Smile2Unlock.GuiIpc.Responses
import Smile2Unlock.GuiIpc.Remote
import Smile2Unlock.GuiIpc.UserArguments
import Smile2Unlock.GuiIpc.PayloadFields
import Smile2Unlock.GuiIpc.StoredNames
import Smile2Unlock.GuiIpc.Rows
import Smile2Unlock.GuiIpc.TruncatedRows
import Smile2Unlock.GuiIpc.ConfigText
import Smile2Unlock.GuiIpc.StatusTexts
import Smile2Unlock.Lib.Ownership
import Smile2Unlock.Service.Ownership
import Smile2Unlock.Service.Recognizer
import Smile2Unlock.Service.FrHandles
import Smile2Unlock.Service.FrObject
import Smile2Unlock.SignIn.SessionEnd
import Smile2Unlock.Service.Runtime
import Smile2Unlock.Service.UserTable
import Smile2Unlock.Common.Datagram
import Smile2Unlock.GuiIpc.Wire
import Smile2Unlock.GuiIpc.Client
import Smile2Unlock.GuiIpc.Server
import Smile2Unlock.SignIn.UsernameField
import Smile2Unlock.Common.FeatureHex
import Smile2Unlock.FaceRecognizer.SharedFrame
import Smile2Unlock.Lib.Loop
import Smile2Unlock.FaceRecognizer.RecognizeFace
import Smile2Unlock.FaceRecognizer.MainLoop
import Smile2Unlock.Service.FaceRemark
import Smile2Unlock.Config.Ini
import Smile2Unlock.Config.ConfigManager
import Smile2Unlock.Config.RecognizerConfig
import Smile2Unlock.Config.LoadedFields
import Smile2Unlock.Lib.Binary64
import Smile2Unlock.Lib.Binary64Ops
import Smile2Unlock.Service.CompareFeatures
import Smile2Unlock.Lib.Cosine
import Smile2Unlock.Lib.Raster
import Smile2Unlock.Lib.Escape
import Smile2Unlock.Lib.Regex
import Smile2Unlock.Service.ExactSimilarity
import Smile2Unlock.SignIn.Enrolment
import Smile2Unlock.FaceRecognizer.CaptureFrame
import Smile2Unlock.FaceRecognizer.FrameLayout
import Smile2Unlock.Lib.PaddedLex
import Smile2Unlock.Update.JsonField
import Smile2Unlock.Update.Version
import Smile2Unlock.Update.LatestVersion
import Smile2Unlock.Common.Padding
import Smile2Unlock.Common.HexLoops
import Smile2Unlock.Service.HexCodecs
import Smile2Unlock.CredentialProvider.Qualification
import Smile2Unlock.Lib.ArrayAccess
import Smile2Unlock.Log.RedirectStreamBuf
import Smile2Unlock.Injector.InjectDll
import Smile2Unlock.Injector.DllStatus
import Smile2Unlock.CredentialProvider.KerbLogon
import Smile2Unlock.CredentialProvider.KerbUnpack
import Smile2Unlock.CredentialProvider.GetSerialization
import Smile2Unlock.Common.PasswordPacket
import Smile2Unlock.SignIn.PasswordChannel
import Smile2Unlock.GuiIpc.RemoteSession
import Smile2Unlock.Service.PreviewStream
import Smile2Unlock.Service.SingleInstance
import Smile2Unlock.Service.MappingHandles
import Smile2Unlock.SignIn.LogonBuffer
import Smile2Unlock.Application.Language
import Smile2Unlock.Lib.HeapTriple
import Smile2Unlock.CredentialProvider.TileStrings
import Smile2Unlock.CredentialProvider.StringMemory
import Smile2Unlock.CredentialProvider.TileLifetime
