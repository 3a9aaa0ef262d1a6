import Ra6m3Rtic.Lib.Runs
import Ra6m3Rtic.SmoltcpUser
import Ra6m3Rtic.Socket
import Ra6m3Rtic.Lib.OneShot
import Ra6m3Rtic.SocketWakeups
import Ra6m3Rtic.Disconnect
import Ra6m3Rtic.Shutdown
import Ra6m3Rtic.Http
import Ra6m3Rtic.Lib.Utf8
import Ra6m3Rtic.MqttEcho
import Ra6m3Rtic.Clock
import Ra6m3Rtic.Mqtt
import Ra6m3Rtic.Lib.Spacing
import Ra6m3Rtic.MqttReconnect
import Ra6m3Rtic.MqttRst
import Ra6m3Rtic.Network
import Ra6m3Rtic.Handshake
import Ra6m3Rtic.SocketFlush
import Ra6m3Rtic.SocketReadiness
import Ra6m3Rtic.Conf
import Ra6m3Rtic.App
import Ra6m3Rtic.NetworkProgress
import Ra6m3Rtic.SocketTask
import Ra6m3Rtic.System
import Ra6m3Rtic.Loops
import Ra6m3Rtic.MqttSession
import Ra6m3Rtic.Periodic
import Ra6m3Rtic.ShutdownProgress
import Ra6m3Rtic.SocketAnswers
import Ra6m3Rtic.SocketHalves
import Ra6m3Rtic.MqttProgress
