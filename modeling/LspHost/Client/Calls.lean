import LspHost.Client.Handshake
import LspHost.Document

/-!
# What the host asks of a client

Operations on documents and requests wait until the first exchange is over and are refused unless
the client runs. A document that the selector does not pick is passed over before that.
-/

namespace LspHost.Client

inductive Readiness where
  | ready
  | waiting
  | refused (e : ClientError)
deriving Repr, DecidableEq

def readiness (c : Client) : Readiness :=
  match c.life with
  | .starting => .waiting
  | .running => .ready
  | other => .refused (.notRunning other)

def selects (c : Client) (url : Url) (language : String) : Bool :=
  c.settings.options.selector.selects url language

def applyOutcome {α : Type} (c : Client) (o : Documents.Outcome α) :
    Client × Except ClientError α :=
  ({ c with documents := o.documents, wire := c.wire ++ o.sent }, o.result)

def openText (c : Client) (url : Url) (language text : String) :
    Client × Except ClientError Bool :=
  c.applyOutcome (c.documents.openText c.isConnected url language text)

def changeText (c : Client) (url : Url) (text : String) : Client × Except ClientError Unit :=
  c.applyOutcome (c.documents.changeText c.isConnected url text)

def takeDocument (c : Client) (url : Url) : Client × Except ClientError Unit :=
  match c.documents.take url with
  | .ok documents => ({ c with documents }, .ok ())
  | .error e => (c, .error e)

def sendClose (c : Client) (url : Url) : Client × Except ClientError Unit :=
  c.applyOutcome (c.documents.sendClose c.isConnected url)

def close (c : Client) (url : Url) : Client × Except ClientError Unit :=
  match c.takeDocument url with
  | (c, .ok ()) => c.sendClose url
  | failed => failed

section

variable (c : Client)

/-- An operation that asks first whether the client is ready and does not wait for it. -/
def whenReady {α : Type} (done : Client × Except ClientError α) : Client × Except ClientError α :=
  match c.readiness with
  | .ready => done
  | .refused e => (c, .error e)
  | .waiting => (c, .error (.notRunning c.life))

def didOpen (url : Url) (language text : String) : Client × Except ClientError Bool :=
  if c.selects url language then c.whenReady (c.openText url language text) else (c, .ok false)

def didChange (url : Url) (text : String) : Client × Except ClientError Unit :=
  c.whenReady (c.changeText url text)

def didClose (url : Url) : Client × Except ClientError Unit :=
  c.whenReady (c.close url)

end

def readDocument (t : FileTree) (p : Path) : Except ClientError (Url × String × String) := do
  let url ← Document.urlOfPath t p
  let text ← Document.readText t p
  .ok (url, Document.languageOf p, text)

def openFile (c : Client) (t : FileTree) (file : Path) : Client × Except ClientError Bool :=
  match readDocument t file with
  | .error e => (c, .error e)
  | .ok (url, language, text) => c.didOpen url language text

/-- Sends a request of the host, or says why it has failed already. -/
def sendRequest (c : Client) (method : String) (params : Json) :
    Except ClientError (Client × Nat) :=
  match c.handRequest (.request · method params) with
  | some sent => .ok sent
  | none => .error (.requestFailed (method ++ " failed: " ++ RequestFailure.stopped.text))

def requestResult (method : String) (result : Except RequestFailure Json) :
    Except ClientError Json :=
  result.mapError fun e => .requestFailed (method ++ " failed: " ++ e.text)

end LspHost.Client
