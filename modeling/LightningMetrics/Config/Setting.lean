set_option autoImplicit false

namespace LightningMetrics

inductive Setting where
  | host
  | macaroonPath
  | certificatePath
  | identity
  | callTimeout
  | listenAddress
  | inboundFeeBase
  | healthActive
  | healthPath
  | logLevel
  | logDirectory
  | logFiles
deriving DecidableEq, Repr

namespace Setting

/-- All settings, in the order in which the environment is consulted. -/
def all : List Setting :=
  [host, macaroonPath, certificatePath, identity, callTimeout, listenAddress, inboundFeeBase,
    healthActive, healthPath, logLevel, logDirectory, logFiles]

/-- The long option, without its dashes. -/
def option : Setting → String
  | host => "lnd.host"
  | macaroonPath => "lnd.macaroonpath"
  | certificatePath => "lnd.tlspath"
  | identity => "lnd.pubkey"
  | callTimeout => "lnd.rpctimeout"
  | listenAddress => "prometheus.listenaddr"
  | inboundFeeBase => "prometheus.inboundfeebase"
  | healthActive => "health.active"
  | healthPath => "health.path"
  | logLevel => "log.level"
  | logDirectory => "log.dir"
  | logFiles => "log.maxfiles"

def environmentName : Setting → String
  | host => "LNMON_LND_HOST"
  | macaroonPath => "LNMON_LND_MACAROON_PATH"
  | certificatePath => "LNMON_LND_TLS_PATH"
  | identity => "LNMON_LND_PUBKEY"
  | callTimeout => "LNMON_LND_RPC_TIMEOUT"
  | listenAddress => "LNMON_PROMETHEUS_LISTEN_ADDR"
  | inboundFeeBase => "LNMON_INBOUND_FEE_BASE_SAT"
  | healthActive => "LNMON_HEALTH_ACTIVE"
  | healthPath => "LNMON_HEALTH_PATH"
  | logLevel => "LNMON_LOG_LEVEL"
  | logDirectory => "LNMON_LOG_DIR"
  | logFiles => "LNMON_LOG_MAX_FILES"

/-- Is the option a switch, which takes no value? -/
def isSwitch (setting : Setting) : Bool :=
  setting == healthActive

/-- The setting with this long option. -/
def ofOption? (name : String) : Option Setting :=
  all.find? fun setting => setting.option == name

/-- Every setting is found by its option. -/
theorem ofOption?_option (setting : Setting) : ofOption? setting.option = some setting := by
  cases setting <;> decide

end Setting

end LightningMetrics
