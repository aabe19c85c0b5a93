import ClusterDriver.Request.Run

set_option autoImplicit false

namespace ClusterDriver

namespace Metrics

def Event.isRequest : Event → Bool
  | .submitted | .success _ | .ignored _ | .failure _ _ | .overallTimeout | .cancelled => true
  | .retry | .speculativeExecution | .attempt _ | .outcome _ _ _ | .nodeRemoved _ => false

end Metrics

end ClusterDriver
