import Monitra.Backend.Http
import Monitra.Backend.Regions

/-!
# Reading results back (`retained_since`, `GET /monitors/{id}/history`, `GET /regions`)

Both queries take a moment from their caller and look no further back than the retention window. The clock is an argument.
-/

namespace Monitra

namespace Service

/-- `u64::saturating_sub`. -/
def saturatingSub (a b : UInt64) : UInt64 := if b ≤ a then a - b else 0

/-- The moment a query goes back to. -/
def retainedSince (since : Option UInt64) (retentionSecs nowUnixSecs : UInt64) : UInt64 :=
  max (since.getD 0) (saturatingSub nowUnixSecs retentionSecs)

def monitorHistory (db : Db) (id : UInt64) (since : Option UInt64) : Except ProviderError (List CheckResult) :=
  provider (db.listCheckResults id since)

end Service

structure CheckResultDto where
  checkedAt : UInt64
  success : Bool
  latencyMs : UInt64
  message : Option String
  deriving DecidableEq, Repr

def CheckResultDto.ofCheckResult (result : CheckResult) : CheckResultDto where
  checkedAt := result.checkedAt
  success := result.success
  latencyMs := result.latencyMs
  message := result.message

/-- `GET /monitors/{id}/history`. -/
def history (db : Db) (retentionSecs nowUnixSecs id : UInt64) (since : Option UInt64) : Except ApiError (List CheckResultDto) :=
  let since := Service.retainedSince since retentionSecs nowUnixSecs
  match Service.monitorHistory db id (some since) with
  | .error e => .error (ApiError.ofProviderError e)
  | .ok results => .ok (results.map CheckResultDto.ofCheckResult)

/-- `GET /regions`; the answer has the fields of the aggregates as they are. -/
def regions (db : Db) (retentionSecs nowUnixSecs : UInt64) (since : Option UInt64) :
    Except ApiError (List Service.RegionAggregate) :=
  let since := Service.retainedSince since retentionSecs nowUnixSecs
  match Service.regionAggregates db (some since) with
  | .error e => .error (ApiError.ofProviderError e)
  | .ok aggregates => .ok aggregates

end Monitra
