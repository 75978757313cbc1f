import StagedAnalysis.Text.Blank
import StagedAnalysis.Workbench.State

/-!
# Views

What the workbench shows: a caption, the console, and three tabs of notes and tables. Everything is
read off the state, so it depends on the text and on the stages that have run on it only. Once the
workbench has stopped, a notice stands in place of the view; that it loses the blanks around its
message is assumed of the library of controls.
-/

namespace StagedAnalysis.Workbench

/-! ## Labels -/

/-- The choice of no sample. -/
def noSample : String := "(ninguno)"

def captionOf : Progress → String
  | .notStarted => "⏳ Pendiente análisis léxico"
  | .lexPassed => "🔤 Léxico OK"
  | .syntaxPassed => "🧩 Sintaxis OK"

def Button.key : Button → String
  | .stage .lexical => "btn_lexical"
  | .stage .syntactic => "btn_syntax"
  | .stage .semantic => "btn_semantic"
  | .clear => "btn_clear"

/-! ## Tables -/

def diagnosticRow (phase : String) (line : Option Int) (code message : String) : Row :=
  [("Fase", .text phase), ("Línea", .ofNumber? line), ("Código", .text code),
    ("Mensaje", .text message)]

def lexicalRows (o : LexicalOutcome) : List Row :=
  match o.document with
  | none => []
  | some d => d.errors.map fun e => diagnosticRow "Léxico" (some e.line) "L001" e.message

def findingRows (phase : String) (fs : List Finding) : List Row :=
  fs.map fun f => diagnosticRow phase f.line? f.code f.message

/-- What the stages found, stage by stage. -/
def diagnosticRows (s : Session) : List Row :=
  (s.lexical?.map lexicalRows).getD [] ++
    (s.syntactic?.map fun o => findingRows "Sintaxis" o.findings).getD [] ++
    (s.semantic?.map fun o => findingRows "Semántica" o.analysis.findings).getD []

/-- The tokens of the lines that could be read, also where others failed. -/
def listedTokens (s : Session) : List Token :=
  match s.lexical?.bind LexicalOutcome.document with
  | none => []
  | some d => d.tokens

def tokenRow (t : Token) : Row :=
  [("kind", .text t.kind.label), ("lexeme", .text t.lexeme), ("line", .number t.line),
    ("column", .number t.column)]

def tokenRows (s : Session) : List Row := (listedTokens s).map tokenRow

def symbolRows (s : Session) : List Row :=
  (s.semantic?.map fun o => o.analysis.table.entries.map SymbolTable.Entry.row).getD []

/-! ## Tabs -/

structure Tab where
  notes : List String := []
  tables : List (List Row) := []
  deriving DecidableEq, Repr

def diagnosticTab (w : State) : Tab :=
  let rows := diagnosticRows w.session
  if !rows.isEmpty then { tables := [rows] }
  else if w.session.lexical?.isNone then
    { notes := ["Ejecuta el análisis léxico para ver resultados."] }
  else { notes := ["✅ Sin errores reportados."] }

def tokenTab (w : State) : Tab :=
  let rows := tokenRows w.session
  if !w.showTokens then { notes := ["Activa \"Ver tokens\" en Preferencias para listarlos."] }
  else if rows.isEmpty then { notes := ["Analiza un programa para ver los tokens."] }
  else { notes := ["Total de tokens: " ++ toString rows.length], tables := [rows] }

def symbolTab (w : State) : Tab :=
  let rows := symbolRows w.session
  if !w.showSymbols then { notes := ["Activa \"Ver tabla de símbolos\" en Preferencias."] }
  else if rows.isEmpty then { notes := ["No hay símbolos para mostrar."] }
  else { tables := [rows] }

/-! ## The view -/

structure View where
  progress : Progress
  caption : String
  source : String
  code : String
  /-- Absent where the text is edited in place. -/
  editor : Option String
  sample : String
  samples : List String
  enabled : List Button
  consoleLength : Nat
  consoleNew : List String
  placeholder : Bool
  tabs : List Tab
  deriving DecidableEq, Repr

/-- The lines of a console beyond those that were shown; all of them where it has become shorter. -/
def consoleSince (shown : Nat) (console : List String) : List String :=
  if console.length < shown then console else console.drop shown

/-- The view of a state, where `shown` lines of the console were shown before. -/
def view (c : Config) (shown : Nat) (w : State) : View where
  progress := w.session.progress
  caption := captionOf w.caption
  source := w.session.source
  code := w.code
  editor := if c.richEditor then none else some w.editor
  sample := w.chosen?.getD noSample
  samples := noSample :: c.samples.map (·.name)
  enabled := Button.all.filter w.enables
  consoleLength := w.session.console.length
  consoleNew := consoleSince shown w.session.console
  placeholder := w.session.transcript == ""
  tabs := [diagnosticTab w, tokenTab w, symbolTab w]

/-- What stands in place of a view once the workbench has stopped: the message of what stopped it,
without the blanks around it. -/
def notice (message : String) : String := String.ofList (Text.trim message.toList)

end StagedAnalysis.Workbench
