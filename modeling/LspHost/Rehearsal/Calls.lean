import LspHost.Rehearsal.World

/-!
# Calls of the host

A call waits for the client to be ready and for its answer, and is done when it has a result. Calls
take their turns in the order in which they were made.
-/

namespace LspHost.Rehearsal.World

def finishCall {α : Type} (w : World) (value : α → Json) (r : Client × Except ClientError α) :
    World × Call :=
  (w.setClient r.1, .done (r.2.map value))

def unitJson : Unit → Json := fun _ => .null

def whenReady (w : World) (op : Op) (go : World → World × Call) : World × Call :=
  match w.client.readiness with
  | .waiting => (w, .begun op)
  | .ready => go w
  | .refused e => (w.act, .done (.error e))

def awaitAnswer (w : World) (id deadline : Nat) (method : String) (shape : Shape) :
    World × Call :=
  let finish (r : CallResult) : World × Call := (w.act, .done r)
  match w.answer? id with
  | some a => finish ((Client.requestResult method (decodeAnswer shape a)).map fun j =>
      .obj [("response", j)])
  | none =>
    if !w.client.isConnected then finish (Client.requestResult method (.error .stopped))
    else if deadline ≤ w.now then finish (.error (.timeout w.client.settings.timeouts.request))
    else (w, .waiting id deadline method shape)

def openCall (w : World) (url : Url) (language text : String) : World × Call :=
  if w.client.selects url language then
    w.whenReady (.didOpen url language text) fun w =>
      w.finishCall .bool (w.client.openText url language text)
  else (w.act, .done (.ok (.bool false)))

def opTurn (w : World) (op : Op) : World × Call :=
  let value (j : Json) : World × Call := (w.act, .done (.ok j))
  match op with
  | .waitReady => w.whenReady op fun w => (w.act, .done (.ok .null))
  | .state => value (.str w.client.life.text)
  | .capabilities => value (w.client.capabilities.getD .null)
  | .serverPid => value (.bool (w.client.session.any (·.child.isSome)))
  | .version url =>
    value (((w.client.documents.version? url).map fun v => Json.int v.toInt).getD .null)
  | .didOpen url language text => w.openCall url language text
  | .didChange url text =>
    w.whenReady op fun w => w.finishCall unitJson (w.client.changeText url text)
  | .didClose url => w.whenReady op fun w => w.finishCall unitJson (w.client.close url)
  | .openPath path =>
    match Document.urlOfPath w.tree path with
    | .error e => (w.act, .done (.error e))
    | .ok url => (w.act, .reading url path)
  | .request method params shape =>
    w.whenReady op fun w =>
      match w.client.sendRequest method params with
      | .error e => (w.act, .done (.error e))
      | .ok (c, id) =>
        let deadline := w.now + w.client.settings.timeouts.request.millis
        (w.setClient c).awaitAnswer id deadline method shape

def callTurn (w : World) (call : Call) : World × Call :=
  match call with
  | .begun op => w.opTurn op
  | .reading url path =>
    match Document.readText w.tree path with
    | .error e => (w.act, .done (.error e))
    | .ok text => w.act.openCall url (Document.languageOf path) text
  | .waiting id deadline method shape => w.awaitAnswer id deadline method shape
  | .done r => (w, .done r)

def callsTurn (w : World) : World :=
  let (w, calls) := w.calls.foldl (fun (w, done) call =>
    let (w, call) := callTurn w call
    (w, done ++ [call])) (w, [])
  { w with calls }

end LspHost.Rehearsal.World
