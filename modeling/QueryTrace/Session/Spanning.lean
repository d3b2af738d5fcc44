import QueryTrace.Session.Desk

/-!
# Chains, executions and spans

Recording call chains, running code inside the span of a query, and the spans that the application
or a deferred span opens.
-/

namespace QueryTrace.Session

/-! ## Chains -/

def storeChain (name : Option String) (c : Chain) : Turn Report := do
  keep name (.chain c)
  return .chain c

def startChain (name : Option String) (rootName : String) (args : Args) : Turn Report :=
  storeChain name (.start rootName args)

/-- Takes over the chain that the outermost layer of a query recorded; the query must have a layer.
-/
def copyChain (name : Option String) (queryName : String) : Turn Report := do
  let q ← findQuery queryName
  match q.calls? with
  | some c => storeChain name c
  | none => throw (.badInput "of")

def recordCall (chainName method : String) (args : Args) : Turn Report := do
  let c ← findChain chainName
  storeChain (some chainName) (c.record method args)

/-- Forgets all but the root call of a chain. -/
def resetChain (chainName : String) : Turn Report := do
  let c ← findChain chainName
  storeChain (some chainName) c.reset

/-! ## Executions -/

/-- The source that a step names. A chain is taken away from the desk. -/
def takeSource : SourceSpec → Turn Source
  | .chain name => return .chain (← takeChain name)
  | .request query summary => return .request query (summary.getD (.ofRequest query "r"))

/-- Puts the chain of a source back under its name, and gives it. -/
def returnSource : SourceSpec → Source → Turn (Option Chain)
  | .chain name, .chain c => do
    store name (.chain c)
    return some c
  | _, _ => return none

def callee (react : List Step → Doing Unit) (body : List Step) (result : Except String Value) :
    Doing (Except String Value) := do
  note .call
  react body
  return result

/-- Executes a callee inside the span of its query. -/
def execute (react : List Step → Doing Unit) (managerName : String) (spec : SourceSpec)
    (role : Role) (body : List Step) (result : Except String Value) : Turn Report := do
  let i ← findInstrumentor managerName
  let source ← takeSource spec
  let (result, source) ← i.manager.trace source role (callee react body result)
  return .executed result (← returnSource spec source)

/-- Gives the current span the description of a source. -/
def describeCurrent (managerName : String) (spec : SourceSpec) : Turn Report := do
  let i ← findInstrumentor managerName
  let source ← takeSource spec
  let context ← doing current
  let source ← doing (i.manager.describe context.span source)
  return .described (← returnSource spec source)

/-! ## The current span -/

/-- What is to be seen of the current span. -/
def showCurrent : Doing Report := do
  let w ← get
  return .span w.current.span.identity (w.isRecording w.current.span)

def endCurrent : Doing Report := do
  modify fun w => w.finish w.current.span
  showCurrent

/-- Carries out steps with a span of the application current. The marks of the context stay; the
span ends when the steps are done. -/
def ambient (react : List Step → Doing Unit) (name : String) (provider : Provider)
    (body : List Step) : Doing Report := do
  let context ← current
  let (span, w) := (← get).startSpan provider .application name context.span
  set w
  within { context with span } (react body)
  modify (·.finish span)
  return .nothing

/-- Carries out steps in the empty context. -/
def detached (react : List Step → Doing Unit) (body : List Step) : Doing Report := do
  within {} (react body)
  return .nothing

/-! ## Deferred spans -/

def addDeferred (name : Option String) (managerName : String) : Turn Report := do
  let i ← findInstrumentor managerName
  let number := (← desk).deferreds.length
  changeDesk fun d => { d with deferreds := d.deferreds ++ [{ span := { manager := i.manager } }] }
  keep name (.deferred number)
  return .deferred .idle

/-- Starts a deferred span that is named after a chain. -/
def startDeferred (spanName chainName : String) : Turn Report := do
  let (number, d) ← findDeferred spanName
  let c ← takeChain chainName
  let (result, d) ← doing (d.start c)
  changeHeld number fun h => { h with span := d }
  store chainName (.chain c)
  return .deferredStarted result d.state

/-- Stops a deferred span, described by a chain. -/
def stopDeferred (spanName chainName : String) : Turn Report := do
  let (number, d) ← findDeferred spanName
  let c ← takeChain chainName
  let (d, c) ← doing (d.stop c)
  changeHeld number fun h => { h with span := d }
  store chainName (.chain c)
  return .deferredStopped d.state c

/-- Carries out steps with a deferred span current. The scope holds the span, so it stays open until
the scope is left even if its name is gone by then. -/
def scopeDeferred (react : List Step → Doing Unit) (spanName : String) (body : List Step) :
    Turn Report := do
  let (number, d) ← findDeferred spanName
  hold number
  doing (d.inScope (react body))
  let held := (← desk).deferreds[number]?
  release number
  return .deferred ((held.map (·.span.state)).getD .idle)

def failDeferred (spanName message : String) : Turn Report := do
  let (_, d) ← findDeferred spanName
  doing (d.noteError message)
  return .deferred d.state

def countDeferred (spanName : String) (rows : UInt64) : Turn Report := do
  let (_, d) ← findDeferred spanName
  doing (d.noteRows rows)
  return .deferred d.state

end QueryTrace.Session
