import LightningMetrics.Exporter.Aggregator
import LightningMetrics.Exporter.PathPattern
import LightningMetrics.Net.Uri

set_option autoImplicit false

namespace LightningMetrics.Exporter

/-- Where Prometheus scrapes. -/
def metricsPath : String := "/metrics"

structure HealthEndpoint where
  active : Bool
  /-- A path pattern. -/
  path : String
deriving DecidableEq, Repr

structure Response where
  status : Nat
  contentType : Option String
  allow : Option String
  body : String
deriving DecidableEq, Repr

namespace Response

def notFound : Response := ⟨404, none, none, ""⟩

/-- The path is there, but only for reading. -/
def wrongMethod : Response := ⟨405, none, some "GET,HEAD", ""⟩

end Response

inductive Endpoint where
  | metrics
  | health
deriving DecidableEq, Repr

/-- Is the path that of the scrape endpoint with one slash more? A pattern that begins like the
scrape endpoint is not tried on it. -/
def isShadowed (pattern : PathPattern) (path : List Char) : Bool :=
  path == metricsPath.toList ++ ['/'] && pattern.partsFrom metricsPath.toList

/-- The endpoint that is mounted at a path. The scrape endpoint goes first, also where the pattern
of the health endpoint fits. -/
def endpoint? (health : HealthEndpoint) (path : List Char) : Option Endpoint :=
  let pattern := PathPattern.ofText health.path
  if path = metricsPath.toList then some .metrics
  else if health.active && !isShadowed pattern path && pattern.fits path then some .health
  else none

namespace Aggregator

/-- Refreshes the polled metrics and shows all of them. -/
def scrape (answers : NodeAnswers) (exporter : Aggregator) :
    List NodeCall × Response × Aggregator :=
  let (calls, body, refreshed) := exporter.render answers
  (calls, ⟨200, some Exposition.contentType, none, body⟩, refreshed)

/-- Healthy is a node that answers. -/
def health (answers : NodeAnswers) : List NodeCall × Response :=
  let plain := some "text/plain; charset=utf-8"
  match answers.info with
  | .ok _ => ([.getInfo], ⟨200, plain, none, "ok"⟩)
  | .error error => ([.getInfo], ⟨500, plain, none, error.message⟩)

/-- Answers one request. `HEAD` does what `GET` does and withholds the body. -/
def respond (answers : NodeAnswers) (healthAt : HealthEndpoint) (method target : String)
    (exporter : Aggregator) : List NodeCall × Response × Aggregator :=
  match endpoint? healthAt (Net.Uri.path target.toList) with
  | none => ([], .notFound, exporter)
  | some endpoint =>
      if method ≠ "GET" ∧ method ≠ "HEAD" then ([], .wrongMethod, exporter)
      else
        let (calls, response, next) :=
          match endpoint with
          | .metrics => exporter.scrape answers
          | .health =>
              let (calls, response) := health answers
              (calls, response, exporter)
        (calls, if method = "HEAD" then { response with body := "" } else response, next)

end Aggregator

end LightningMetrics.Exporter
