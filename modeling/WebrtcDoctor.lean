import WebrtcDoctor.MessageRoundTrip
import WebrtcDoctor.Dns
import WebrtcDoctor.Stun
import WebrtcDoctor.TurnsAlloc
import WebrtcDoctor.TurnEcho
import WebrtcDoctor.IceGather
import WebrtcDoctor.Signaling
import WebrtcDoctor.Dtls
import WebrtcDoctor.Cli
import WebrtcDoctor.HostileInput
import WebrtcDoctor.Credential
import WebrtcDoctor.Session
import WebrtcDoctor.Verdict
import WebrtcDoctor.EchoAccounting
import WebrtcDoctor.EchoTiming
import WebrtcDoctor.Dialogue
import WebrtcDoctor.AllocateDance
import WebrtcDoctor.AddressCodec
import WebrtcDoctor.AllocateFields
import WebrtcDoctor.ErrorParsers
import WebrtcDoctor.MappedAddress
import WebrtcDoctor.DataIndication
import WebrtcDoctor.StreamFraming
import WebrtcDoctor.ChallengeAnswer
import WebrtcDoctor.FrameEffect
import WebrtcDoctor.UriForms
import WebrtcDoctor.Delimited
import WebrtcDoctor.IceScheme
import WebrtcDoctor.Interference
import WebrtcDoctor.HostPort
import WebrtcDoctor.ErrorCodes
import WebrtcDoctor.FullReport
import WebrtcDoctor.RelayVerdict
import WebrtcDoctor.Budget
import WebrtcDoctor.Patience
import WebrtcDoctor.Traffic
import WebrtcDoctor.TurnsVerdict
import WebrtcDoctor.DeclaredLength
import WebrtcDoctor.Render
import WebrtcDoctor.Secrecy
import WebrtcDoctor.FirstAddress
import WebrtcDoctor.StdinSecrets
import WebrtcDoctor.IceReport
import WebrtcDoctor.Fingerprint
