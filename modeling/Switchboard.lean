import Switchboard.Json.Basic
import Switchboard.Json.Print
import Switchboard.Text.Utf8
import Switchboard.Text.Quoted
import Switchboard.Json.Source
import Switchboard.Json.Reader
import Switchboard.Json.Tree
import Switchboard.Json.Record
import Switchboard.Wire.Wide
import Switchboard.Wire.Authorization
import Switchboard.Wire.Error
import Switchboard.Wire.Envelope
import Switchboard.Wire.Event
import Switchboard.Wire.Request
import Switchboard.Text.Blank
import Switchboard.Time.Duration
import Switchboard.Time.Human
import Switchboard.Bus.Policy
import Switchboard.Client.Settings
import Switchboard.Bus.Listener
import Switchboard.Bus.Registry
import Switchboard.Bus.Session
import Switchboard.Bus.Log
import Switchboard.Engine.Error
import Switchboard.Client.Error
import Switchboard.Client.Correlation
import Switchboard.Engine.AuthFlow
import Switchboard.Engine.Responder
import Switchboard.Engine.Basic
import Switchboard.Engine.Handle
import Switchboard.Engine.Session
import Switchboard.Client.Basic
import Switchboard.Auth.Handoff
import Switchboard.Auth.Prompt
import Switchboard.Auth.Authorizer
import Switchboard.Auth.Authorize
import Switchboard.Client.Session
import Switchboard.Proofs.Table
import Switchboard.Proofs.Correlation
import Switchboard.Proofs.Registry
import Switchboard.Proofs.Dispatch
import Switchboard.Proofs.Send
import Switchboard.Proofs.Queue
import Switchboard.Bus.Shared
import Switchboard.Proofs.Wakeup
import Switchboard.Proofs.Lifecycle
import Switchboard.Engine.Shared
import Switchboard.Proofs.Exclusion
import Switchboard.Proofs.SignInScript
import Switchboard.Proofs.MessageViews
import Switchboard.Proofs.Stopping
import Switchboard.Proofs.Accounting
import Switchboard.Proofs.SendFootprint
import Switchboard.Proofs.SignInRounds
import Switchboard.Proofs.Utf8Reading
import Switchboard.Proofs.ScalarReading
import Switchboard.Proofs.NumberTexts
import Switchboard.Proofs.CompactReading
import Switchboard.Proofs.ValueSkipping
import Switchboard.Proofs.Normalization
import Switchboard.Proofs.RequestTexts
import Switchboard.Proofs.Tally
import Switchboard.Proofs.BoundedWait
import Switchboard.Proofs.TreeReading
import Switchboard.Proofs.EventTags
import Switchboard.Proofs.WideIntegers
import Switchboard.Proofs.History
import Switchboard.Proofs.SettingsVariables
import Switchboard.Proofs.HumanDurations
import Switchboard.Proofs.PolicyTexts
import Switchboard.Proofs.SettingsJson
import Switchboard.Proofs.EngineQueue
import Switchboard.Proofs.ReplyReading
import Switchboard.Proofs.SignInCalls
import Switchboard.Proofs.ScriptedSignIn
import Switchboard.Proofs.TerminalSignIn
import Switchboard.Proofs.SuppliedSignIn
