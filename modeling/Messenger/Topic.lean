/-! Topics are paths of segments divided by slashes. -/

namespace Messenger

namespace Topic

/-- Pages of a restore or a sync arrive on topics with a segment `batch`. -/
def isBatch (topic : String) : Bool :=
  (topic.toList.splitOn '/').contains "batch".toList

end Topic

end Messenger
