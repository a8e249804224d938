namespace InbandTelemetry

/-!
# Measurements

A telemetry header asks every hop for one of five measurements, by a 3-bit code.
Codes above four are not assigned.
-/

/-- What every hop is asked to measure. -/
inductive Metric where
  | latency
  | ingressPacketRate
  | ingressByteRate
  | egressPacketRate
  | egressByteRate
deriving DecidableEq

namespace Metric

def code : Metric → UInt8
  | latency => 0
  | ingressPacketRate => 1
  | ingressByteRate => 2
  | egressPacketRate => 3
  | egressByteRate => 4

def ofCode? (code : UInt8) : Option Metric :=
  match code with
  | 0 => some latency
  | 1 => some ingressPacketRate
  | 2 => some ingressByteRate
  | 3 => some egressPacketRate
  | 4 => some egressByteRate
  | _ => none

def name : Metric → String
  | latency => "Latency"
  | ingressPacketRate => "IngressPacketRate"
  | ingressByteRate => "IngressByteRate"
  | egressPacketRate => "EgressPacketRate"
  | egressByteRate => "EgressByteRate"

def isIngressRate : Metric → Bool
  | ingressPacketRate | ingressByteRate => true
  | _ => false

def isEgressRate : Metric → Bool
  | egressPacketRate | egressByteRate => true
  | _ => false

def isByteRate : Metric → Bool
  | ingressByteRate | egressByteRate => true
  | _ => false

/-- Every measurement is found again under its code. -/
@[simp] theorem ofCode?_code (metric : Metric) : ofCode? metric.code = some metric := by
  cases metric <;> rfl

/-- A code names at most one measurement, and that measurement has this code. -/
theorem code_of_ofCode? {code : UInt8} {metric : Metric} (found : ofCode? code = some metric) :
    metric.code = code := by
  unfold ofCode? at found
  split at found <;> simp_all [Metric.code] <;> subst found <;> rfl

end Metric

end InbandTelemetry
