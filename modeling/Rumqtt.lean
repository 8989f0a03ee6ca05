import Rumqtt.Lib.Checked
import Rumqtt.Lib.Handler
import Rumqtt.Lib.FixedBitSet
import Rumqtt.Lib.SlotVec
import Rumqtt.Lib.Ownership
import Rumqtt.Lib.Run
import Rumqtt.Packet
import Rumqtt.StateError
import Rumqtt.PacketIds
import Rumqtt.Flows
import Rumqtt.Flows.Tracked
import Rumqtt.Flows.Steps
import Rumqtt.Flows.Cleanup
import Rumqtt.Persistence
import Rumqtt.Flows.Restore
import Rumqtt.V5.Packet
import Rumqtt.V5.Auth
import Rumqtt.V5.TopicAlias
import Rumqtt.V5.MqttState
import Rumqtt.V5.Outgoing
import Rumqtt.V5.Incoming
import Rumqtt.V5.Sound
import Rumqtt.V5.Acks
import Rumqtt.V5.Receive
import Rumqtt.V5.Dispatch
import Rumqtt.V5.Sending
import Rumqtt.V5.Requests
import Rumqtt.V5.Session
import Rumqtt.V5.Driver
import Rumqtt.V5.SendQuota
import Rumqtt.V4.Packet
import Rumqtt.V4.MqttState
import Rumqtt.V4.Outgoing
import Rumqtt.V4.Incoming
import Rumqtt.Flows.HandedOut
import Rumqtt.V4.Acks
import Rumqtt.V4.Dispatch
import Rumqtt.V4.Sending
import Rumqtt.V4.Requests
import Rumqtt.V4.Session
import Rumqtt.V4.Driver
import Rumqtt.Flows.View
import Rumqtt.V5.Moves
import Rumqtt.V4.Moves
import Rumqtt.Flows.Acknowledged
import Rumqtt.V5.Acknowledging
import Rumqtt.V4.Acknowledging
import Rumqtt.Acknowledgements
import Rumqtt.Flows.GiveBack
import Rumqtt.Flows.Tables
import Rumqtt.Flows.Custody
import Rumqtt.V4.Window
import Rumqtt.V4.Custody
import Rumqtt.V5.Replayable
import Rumqtt.V5.Custody
import Rumqtt.PublishCustody
import Rumqtt.Lib.Buffer
import Rumqtt.Lib.Wire
import Rumqtt.Lib.Stream
import Rumqtt.Lib.Cursor
import Rumqtt.Mqttbytes.Primitives
import Rumqtt.Mqttbytes.Topic
import Rumqtt.Mqttbytes.Frames
import Rumqtt.V5.Codec.Properties
import Rumqtt.V5.Codec.PropertySets
import Rumqtt.V5.Codec.Packets
import Rumqtt.V5.Codec.PropertyLaws
import Rumqtt.V5.Codec.SetLaws
import Rumqtt.V5.Codec.PacketLaws
import Rumqtt.V5.Codec.Standard
import Rumqtt.V5.Codec.Cuts
import Rumqtt.V5.Codec.Untrusted
import Rumqtt.V5.Codec.RoundTrip
import Rumqtt.V5.Codec.Stream
import Rumqtt.V5.Codec.Pipe
import Rumqtt.Scheduler
import Rumqtt.Admission
import Rumqtt.V5.ReceiveQuota
import Rumqtt.V5.PublishBudget
import Rumqtt.Flows.Checkpoint
import Rumqtt.V5.Redirect
import Rumqtt.V5.SrvOrder
import Rumqtt.V5.RedirectLoop
import Rumqtt.V5.RedirectChain
import Rumqtt.V5.RedirectSecrets
import Rumqtt.V5.SessionFormat
import Rumqtt.V5.SessionFormatLaws
import Rumqtt.FailedTransitions
import Rumqtt.V5.Readiness
import Rumqtt.V5.ResourceNames
import Rumqtt.V5.Inbound
import Rumqtt.V5.ExactlyOnce
import Rumqtt.Wrapper.Command
import Rumqtt.Wrapper.PacketSizes
import Rumqtt.Wrapper.Reconnect
