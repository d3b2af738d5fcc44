import QueryTrace.Session.Connecting
import QueryTrace.Session.Describe
import QueryTrace.Session.Querying
import QueryTrace.Session.SetUp
import QueryTrace.Session.Spanning

/-!
# What the steps do

`Step.perform` carries out one step and gives its report. Steps inside it (the body of a step, and
the steps of a response) are given to `react`. The fuel is more than the number of requests that a
single fetch can need.
-/

namespace QueryTrace.Session

/-- Drops the object of a name, if there is one. -/
def dropObject (name : String) : Doing Report := do
  match ← lookup? name with
  | some object =>
    remove name
    discard object
    return .dropped true
  | none => return .dropped false

/-- The text of an object. A server has none. -/
def describeObject (executor : Bool) : Object → Turn String
  | .instrumentor i =>
    return if executor then describeManager i.manager else describeInstrumentor i
  | .server _ => throw (.badInput "name")
  | .root r => return describeOver describeRoot r.layers
  | .connection c =>
    return if executor && !c.layers.isEmpty then describeOver describeSender c.layers
      else describeConnection c
  | .query q => return describeQuery q
  | .cursor c => return describeCursor c
  | .chain c => return describeChain c
  | .deferred number => do
    match (← desk).deferreds[number]? with
    | some held => return describeDeferred held.span
    | none => throw (.badInput "name")

def showObject (name : String) (executor : Bool) : Turn Report := do
  let object ← find some name
  return .text (← describeObject executor object)

/-- Reports the first object that is not there, and the wrong field when all are. -/
def refuse (needs : List (Kind × String)) (field : String) : Turn Report := do
  for (kind, name) in needs do
    let _ ← find (fun o => if o.kind = kind then some () else none) name
  throw (.badInput field)

/-- Carries out one step. -/
def Step.perform (react : List Step → Doing Unit) (fuel : Nat) : Step → Turn Report
  | .instrument name config backend classifier => addInstrumentor name config backend classifier
  | .server name latency => addServer name latency
  | .respond name responses connects closes => addResponses name responses connects closes
  | .root name base layer => addRoot name base layer
  | .unwrapRoot name base => Session.unwrapRoot name base
  | .connect name base args => Session.connect name base args
  | .openPlain name base => Session.openPlain name base
  | .unwrap name base => unwrapConnection name base
  | .reconnect name base noreplyWait timeout => Session.reconnect name base noreplyWait timeout
  | .wrap name base wrapping => wrapConnection name base wrapping
  | .configOf name => showConfigs name
  | .closeConnection name noreplyWait => Session.closeConnection name noreplyWait
  | .send name request noreply => Session.send react name request noreply
  | .query name base method args => startQuery name base method args
  | .call name base method args => callQuery name base method args
  | .unwrapQuery name base => Session.unwrapQuery name base
  | .queryInfo name => showQuery name
  | .run name base connection options take => runQuery react name base connection options take
  | .next name count => fetchRows react fuel name count
  | .close name => closeCursor react name
  | .drop name => dropObject name
  | .chain name rootName args => startChain name rootName args
  | .chainOf name base => copyChain name base
  | .record name method args => recordCall name method args
  | .reset name => resetChain name
  | .execute name spec role body result => Session.execute react name spec role body result
  | .describe name spec => describeCurrent name spec
  | .current => showCurrent
  | .endCurrent => Session.endCurrent
  | .ambient name provider body => Session.ambient react name provider body
  | .detached body => Session.detached react body
  | .deferred name base => addDeferred name base
  | .startDeferred name chainName => Session.startDeferred name chainName
  | .stopDeferred name chainName => Session.stopDeferred name chainName
  | .scope name body => scopeDeferred react name body
  | .noteError name message => failDeferred name message
  | .noteRows name rows => countDeferred name rows
  | .debug name executor => showObject name executor
  | .malformed _ needs field => refuse needs field

end QueryTrace.Session
