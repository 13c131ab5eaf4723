import CallGateway.ServiceName

/-! The configuration of one gateway instance. -/

namespace CallGateway

structure GatewayConfig where
  instanceId : String
  /-- How long a call may take, in milliseconds. -/
  requestTimeout : UInt64 := 30000
  topicSuffix : String := defaultTopicSuffix
  deriving DecidableEq

namespace GatewayConfig

/-- The topic on which the instance receives replies. Instances whose ids are spelled differently
may share it. -/
def replyTopic (c : GatewayConfig) : String := CallGateway.replyTopic c.instanceId

/-- The consumer group of the instance on its reply topic. -/
def replyGroup (c : GatewayConfig) : String := c.instanceId

end GatewayConfig

end CallGateway
