import LspHost.Json.Shape

/-!
# What a server says about itself

The shape of an answer to `initialize`. Most capabilities are either a flag or a record of options,
and an absent capability is not offered.
-/

namespace LspHost.Protocol

open Shape

abbrev Field := String × Presence × Shape

def maybe (key : String) (s : Shape) : Field := (key, .optional, s)
def must (key : String) (s : Shape) : Field := (key, .required, s)

/-- A member that is written even where it has no value. -/
def always (key : String) (s : Shape) : Field := (key, .nullable, s)

def texts : Shape := list text
def workDone : Field := maybe "workDoneProgress" bool

def options (name : String) (fields : List Field) : Shape :=
  merged name [fields, [workDone]]

/-- A flag or options, under the name that an ill-formed one is reported with. -/
def flagOr (name : String) (s : Shape) : Shape :=
  choice name [bool, s]

def documentFilter : Shape :=
  record "DocumentFilter" [maybe "language" text, maybe "scheme" text, maybe "pattern" text]

def staticRegistration (name : String) : Shape :=
  record name [always "documentSelector" (list documentFilter), maybe "id" text]

def syncKind : Shape := i32

def textDocumentSync : Shape :=
  choice "TextDocumentSyncCapability" [
    syncKind,
    record "TextDocumentSyncOptions" [
      maybe "openClose" bool,
      maybe "change" syncKind,
      maybe "willSave" bool,
      maybe "willSaveWaitUntil" bool,
      maybe "save" (choice "TextDocumentSyncSaveOptions" [
        bool, record "SaveOptions" [maybe "includeText" bool]])]]

def fileOperation : Shape :=
  record "FileOperationRegistrationOptions" [
    must "filters" (list (record "FileOperationFilter" [
      always "scheme" text,
      must "pattern" (record "FileOperationPattern" [
        must "glob" text,
        maybe "matches" (word ["file", "folder"]),
        maybe "options" (record "FileOperationPatternOptions" [
          maybe "ignoreCase" bool])])]))]

def workspace : Shape :=
  record "WorkspaceServerCapabilities" [
    maybe "workspaceFolders" (record "WorkspaceFoldersServerCapabilities" [
      maybe "supported" bool,
      maybe "changeNotifications" (choice "OneOf" [bool, text])]),
    maybe "fileOperations" (record "WorkspaceFileOperationsServerCapabilities" [
      maybe "didCreate" fileOperation,
      maybe "willCreate" fileOperation,
      maybe "didRename" fileOperation,
      maybe "willRename" fileOperation,
      maybe "didDelete" fileOperation,
      maybe "willDelete" fileOperation])]

def semanticTokens : Shape :=
  choice "SemanticTokensServerCapabilities" [
    options "SemanticTokensOptions" [
      must "legend" (record "SemanticTokensLegend" [
        must "tokenTypes" texts, must "tokenModifiers" texts]),
      maybe "range" bool,
      maybe "full" (choice "SemanticTokensFullOptions" [
        bool, merged "SemanticTokensFullOptions" [[maybe "delta" bool]]])]]

def serverCapabilities : Shape :=
  record "ServerCapabilities" [
    maybe "positionEncoding" text,
    maybe "textDocumentSync" textDocumentSync,
    maybe "selectionRangeProvider"
      (flagOr "SelectionRangeProviderCapability" (options "SelectionRangeOptions" [])),
    maybe "hoverProvider" (flagOr "HoverProviderCapability" (options "HoverOptions" [])),
    maybe "completionProvider" (options "CompletionOptions" [
      maybe "resolveProvider" bool,
      maybe "triggerCharacters" texts,
      maybe "allCommitCharacters" texts,
      maybe "completionItem" (record "CompletionOptionsCompletionItem" [
        maybe "labelDetailsSupport" bool])]),
    maybe "signatureHelpProvider" (options "SignatureHelpOptions" [
      maybe "triggerCharacters" texts, maybe "retriggerCharacters" texts]),
    maybe "definitionProvider" (flagOr "OneOf" (options "DefinitionOptions" [])),
    maybe "typeDefinitionProvider" (flagOr "TypeDefinitionProviderCapability"
      (staticRegistration "StaticTextDocumentRegistrationOptions")),
    maybe "implementationProvider" (flagOr "ImplementationProviderCapability"
      (staticRegistration "StaticTextDocumentRegistrationOptions")),
    maybe "referencesProvider" (flagOr "OneOf" (options "ReferencesOptions" [])),
    maybe "documentHighlightProvider" (flagOr "OneOf" (options "DocumentHighlightOptions" [])),
    maybe "documentSymbolProvider"
      (flagOr "OneOf" (options "DocumentSymbolOptions" [maybe "label" text])),
    maybe "workspaceSymbolProvider"
      (flagOr "OneOf" (options "WorkspaceSymbolOptions" [maybe "resolveProvider" bool])),
    maybe "codeActionProvider" (flagOr "CodeActionProviderCapability"
      (options "CodeActionOptions" [maybe "codeActionKinds" texts, maybe "resolveProvider" bool])),
    maybe "codeLensProvider" (record "CodeLensOptions" [maybe "resolveProvider" bool]),
    maybe "documentFormattingProvider" (flagOr "OneOf" (options "DocumentFormattingOptions" [])),
    maybe "documentRangeFormattingProvider"
      (flagOr "OneOf" (options "DocumentRangeFormattingOptions" [])),
    maybe "documentOnTypeFormattingProvider" (record "DocumentOnTypeFormattingOptions" [
      must "firstTriggerCharacter" text, maybe "moreTriggerCharacter" texts]),
    maybe "renameProvider"
      (flagOr "OneOf" (options "RenameOptions" [maybe "prepareProvider" bool])),
    maybe "documentLinkProvider" (options "DocumentLinkOptions" [maybe "resolveProvider" bool]),
    maybe "colorProvider" (choice "ColorProviderCapability" [
      bool,
      record "ColorProviderOptions" [],
      staticRegistration "StaticTextDocumentColorProviderOptions"]),
    maybe "foldingRangeProvider" (choice "FoldingRangeProviderCapability" [
      bool,
      record "FoldingProviderOptions" [],
      staticRegistration "StaticTextDocumentColorProviderOptions"]),
    maybe "declarationProvider" (choice "DeclarationCapability" [
      bool,
      merged "DeclarationRegistrationOptions"
        [[workDone], [always "documentSelector" (list documentFilter)], [maybe "id" text]],
      merged "DeclarationOptions" [[workDone]]]),
    maybe "executeCommandProvider" (options "ExecuteCommandOptions" [must "commands" texts]),
    maybe "workspace" workspace,
    maybe "callHierarchyProvider"
      (flagOr "CallHierarchyServerCapability" (options "CallHierarchyOptions" [])),
    maybe "semanticTokensProvider" semanticTokens,
    maybe "monikerProvider" (flagOr "OneOf" (options "MonikerOptions" [])),
    maybe "linkedEditingRangeProvider"
      (flagOr "LinkedEditingRangeServerCapabilities" (options "LinkedEditingRangeOptions" [])),
    maybe "inlineValueProvider" (flagOr "OneOf" (options "InlineValueOptions" [])),
    maybe "inlayHintProvider"
      (flagOr "OneOf" (options "InlayHintOptions" [maybe "resolveProvider" bool])),
    maybe "diagnosticProvider" (choice "DiagnosticServerCapabilities" [
      options "DiagnosticOptions" [
        maybe "identifier" text,
        must "interFileDependencies" bool,
        must "workspaceDiagnostics" bool]]),
    maybe "experimental" any]

def initializeResult : Shape :=
  record "InitializeResult" [
    must "capabilities" serverCapabilities,
    maybe "serverInfo" (record "ServerInfo" [must "name" text, maybe "version" text])]

end LspHost.Protocol
