import QueryTrace.Proofs.Worlds
import QueryTrace.Session.Spanning

/-!
# Spans of the application

An ambient step starts a span of the application, carries its body out with that span current, and
ends the span. The body gets to work in the world `inAmbient`.
-/

namespace QueryTrace.Session

/-- The span that an ambient step starts. -/
def ambientSpan (w : World Desk Note) (name : String) (provider : Provider) : SpanRef :=
  (w.startSpan provider .application name w.current.span).1

/-- The world in which the body of an ambient step is carried out. -/
def inAmbient (w : World Desk Note) (name : String) (provider : Provider) : World Desk Note :=
  (w.startSpan provider .application name w.current.span).2.attach
    { w.current with span := ambientSpan w name provider }

theorem after_ambient (react : List Step → Doing Unit) (name : String) (provider : Provider)
    (body : List Step) (w : World Desk Note) :
    after (ambient react name provider body) w =
      (after (react body) (inAmbient w name provider)).detach.finish
        (ambientSpan w name provider) := rfl

end QueryTrace.Session
