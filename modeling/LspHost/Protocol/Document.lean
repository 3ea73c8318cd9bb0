import LspHost.Protocol.Capabilities

/-!
# What is said about documents

Shapes of the requests and answers that a client may exchange with its server, and of the
notifications a server may send on its own.
-/

namespace LspHost.Protocol

open Shape

def position : Shape :=
  record "Position" [must "line" u32, must "character" u32]

def range : Shape :=
  record "Range" [must "start" position, must "end" position]

def location : Shape :=
  record "Location" [must "uri" url, must "range" range]

def numberOrText : Shape :=
  choice "NumberOrString" [i32, text]

def workDoneToken : Field := maybe "workDoneToken" numberOrText

def textDocument : Field :=
  must "textDocument" (record "TextDocumentIdentifier" [must "uri" url])

def hoverParams : Shape :=
  merged "HoverParams" [[textDocument, must "position" position], [workDoneToken]]

def markedText : Shape :=
  choice "MarkedString" [
    text, record "LanguageString" [must "language" text, must "value" text]]

def hoverResult : Shape :=
  option (record "Hover" [
    must "contents" (choice "HoverContents" [
      markedText,
      list markedText,
      record "MarkupContent" [
        must "kind" (word ["plaintext", "markdown"]), must "value" text]]),
    maybe "range" range])

def definitionParams : Shape :=
  merged "GotoDefinitionParams" [
    [textDocument, must "position" position],
    [workDoneToken],
    [maybe "partialResultToken" numberOrText]]

def locationLink : Shape :=
  record "LocationLink" [
    maybe "originSelectionRange" range,
    must "targetUri" url,
    must "targetRange" range,
    must "targetSelectionRange" range]

def definitionResult : Shape :=
  option (choice "GotoDefinitionResponse" [location, list location, list locationLink])

def executeCommandParams : Shape :=
  merged "ExecuteCommandParams" [
    [must "command" text, ("arguments", .defaultTo (.arr []), list any)],
    [workDoneToken]]

def messageParams (name : String) : Shape :=
  record name [must "type" i32, must "message" text]

def diagnostic : Shape :=
  record "Diagnostic" [
    must "range" range,
    maybe "severity" i32,
    maybe "code" numberOrText,
    maybe "codeDescription" (record "CodeDescription" [must "href" url]),
    maybe "source" text,
    must "message" text,
    maybe "relatedInformation" (list (record "DiagnosticRelatedInformation" [
      must "location" location, must "message" text])),
    maybe "tags" (list i32),
    maybe "data" any]

def diagnosticsParams : Shape :=
  record "PublishDiagnosticsParams" [
    must "uri" url, must "diagnostics" (list diagnostic), maybe "version" i32]

def progressValue : Shape :=
  let report : List Field := [
    maybe "cancellable" bool, maybe "message" text, maybe "percentage" u32]
  choice "ProgressParamsValue" [tagged "kind" [
    ("begin", record "WorkDoneProgressBegin" (must "title" text :: report)),
    ("report", record "WorkDoneProgressReport" report),
    ("end", record "WorkDoneProgressEnd" [maybe "message" text])]]

def progressParams : Shape :=
  record "ProgressParams" [must "token" numberOrText, must "value" progressValue]

def progressCreateParams : Shape :=
  record "WorkDoneProgressCreateParams" [must "token" numberOrText]

end LspHost.Protocol
