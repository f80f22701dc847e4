import HassAgent.Registry
import HassAgent.RegistryRace
import HassAgent.AgentRun
import HassAgent.MQTTController
import HassAgent.MQTTPublish
import HassAgent.Notifications
import HassAgent.OSController
import HassAgent.Scripts
import HassAgent.NetUrl
import HassAgent.SaveRegistration
import HassAgent.Register
import HassAgent.Config
import HassAgent.AgentConfig
import HassAgent.Stringer
import HassAgent.ScreenLock
import HassAgent.DiskRates
import HassAgent.DiskRatesInvariant
