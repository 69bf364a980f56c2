import LightningMetrics.Config.Basic
import LightningMetrics.Config.Setting

set_option autoImplicit false

namespace LightningMetrics

/-- Why a command line gives no configuration. -/
inductive Refusal where
  /-- The help text was asked for. -/
  | help
  /-- The version was asked for. -/
  | version
  /-- There is no such option, or a word stands where none belongs. -/
  | unknownArgument
  /-- A value is missing, empty or none of the possible ones. -/
  | invalidValue
  /-- A value is no number, address or key. -/
  | unreadableValue
  /-- A switch was given a value. -/
  | unneededValue
  | repeated
  /-- A setting without a default is missing. -/
  | missingSetting
deriving DecidableEq, Repr

/-- Asking for a text is no failure; all else is a wrong use. -/
def Refusal.exitCode : Refusal → Nat
  | help => 0
  | version => 0
  | _ => 2

structure Draft where
  host : Option String
  macaroonPath : Option String
  certificatePath : Option String
  identity : Option PublicKey
  callTimeout : Option UInt64
  listenAddress : Option Net.SocketAddress
  inboundFeeBase : Option UInt64
  healthActive : Option Bool
  healthPath : Option String
  logLevel : Option String
  logDirectory : Option String
  logFiles : Option UInt64

namespace Draft

/-- Nothing was given yet. -/
def empty : Draft :=
  ⟨none, none, none, none, none, none, none, none, none, none, none, none⟩

/-- Was the setting given? -/
def has (draft : Draft) : Setting → Bool
  | .host => draft.host.isSome
  | .macaroonPath => draft.macaroonPath.isSome
  | .certificatePath => draft.certificatePath.isSome
  | .identity => draft.identity.isSome
  | .callTimeout => draft.callTimeout.isSome
  | .listenAddress => draft.listenAddress.isSome
  | .inboundFeeBase => draft.inboundFeeBase.isSome
  | .healthActive => draft.healthActive.isSome
  | .healthPath => draft.healthPath.isSome
  | .logLevel => draft.logLevel.isSome
  | .logDirectory => draft.logDirectory.isSome
  | .logFiles => draft.logFiles.isSome

/-- A path must not be empty. -/
def readPath (text : String) : Except Refusal String :=
  if text = "" then .error .invalidValue else .ok text

def readFlag (text : String) : Except Refusal Bool :=
  if text = "true" then .ok true
  else if text = "false" then .ok false
  else .error .invalidValue

def readWord (text : String) : Except Refusal UInt64 :=
  (Text.word? text.toList).elim (.error .unreadableValue) .ok

def readKey (text : String) : Except Refusal PublicKey :=
  (PublicKey.ofText? text).elim (.error .unreadableValue) .ok

def readAddress (text : String) : Except Refusal Net.SocketAddress :=
  (Net.SocketAddress.ofText? text.toList).elim (.error .unreadableValue) .ok

/-- Reads a value into its setting. -/
def assign (draft : Draft) (setting : Setting) (text : String) : Except Refusal Draft :=
  match setting with
  | .host => return { draft with host := text }
  | .macaroonPath => return { draft with macaroonPath := ← readPath text }
  | .certificatePath => return { draft with certificatePath := ← readPath text }
  | .identity => return { draft with identity := ← readKey text }
  | .callTimeout => return { draft with callTimeout := ← readWord text }
  | .listenAddress => return { draft with listenAddress := ← readAddress text }
  | .inboundFeeBase => return { draft with inboundFeeBase := ← readWord text }
  | .healthActive => return { draft with healthActive := ← readFlag text }
  | .healthPath => return { draft with healthPath := text }
  | .logLevel => return { draft with logLevel := text }
  | .logDirectory => return { draft with logDirectory := ← readPath text }
  | .logFiles => return { draft with logFiles := ← readWord text }

/-- Fills the settings that were not given from the environment. The variable of a setting that
was given is not looked at. -/
def fill (draft : Draft) (environment : String → Option String) : Except Refusal Draft :=
  Setting.all.foldlM (fun draft setting =>
    if draft.has setting then .ok draft
    else
      match environment setting.environmentName with
      | none => .ok draft
      | some text => draft.assign setting text) draft

/-- Where Prometheus finds the exporter unless it is told otherwise: port 9092 of this host. -/
def defaultListenAddress : Net.SocketAddress :=
  .v4 ⟨127, 0, 0, 1⟩ 9092

/-- The configuration, with defaults for what was not given. The credentials have none. -/
def complete (draft : Draft) : Except Refusal Config :=
  match draft.macaroonPath, draft.certificatePath with
  | some macaroonPath, some certificatePath =>
      .ok
        { node :=
            { host := draft.host.getD "https://localhost:10009"
              macaroonPath
              certificatePath
              identity := draft.identity
              timeout := draft.callTimeout.getD 30 }
          listenAddress := draft.listenAddress.getD defaultListenAddress
          inboundFeeBase := draft.inboundFeeBase.getD 100000
          health := ⟨draft.healthActive.getD false, draft.healthPath.getD "/health"⟩
          log := ⟨draft.logLevel.getD "info", draft.logDirectory, draft.logFiles.getD 7⟩ }
  | _, _ => .error .missingSetting

end Draft

end LightningMetrics
