namespace Triage.Page

inductive Marker where
  | rules
  | results
  | statements
  | noResult
  deriving DecidableEq, Repr

def Marker.word : Marker → List Char
  | .rules => "__RULES__".toList
  | .results => "__RESULTS__".toList
  | .statements => "__STATEMENTS__".toList
  | .noResult => "__NO_RESULT__".toList

-- The order in which markers are replaced.
def Marker.all : List Marker := [.rules, .results, .statements, .noResult]

inductive Piece where
  | plain (text : List Char)
  | marker (marker : Marker)
  deriving Repr

def lineOf (text : String) : List Char := text.toList ++ ['\n']

def lineWith (before : String) (marker : Marker) (after : String) : List Piece :=
  [.plain before.toList, .marker marker, .plain (lineOf after)]

def plainLines (lines : List String) : List Piece := [.plain (lines.flatMap lineOf)]

def style : List Char := '\n' :: [
  "        body \x7b",
  "            font-family: Arial, sans-serif;",
  "            background-color: #f4f4f9;",
  "            margin: 0;",
  "            padding: 20px;",
  "        \x7d",
  "        .container \x7b",
  "            background: white;",
  "            padding: 2rem;",
  "            border-radius: 8px;",
  "            box-shadow: 0 4px 6px rgba(0, 0, 0, 0.1);",
  "            max-width: 800px;",
  "            margin: 0 auto;",
  "        \x7d",
  "        h1 \x7b",
  "            font-size: 1.5rem;",
  "            color: #333;",
  "            margin-bottom: 1.5rem;",
  "            text-align: center;",
  "        \x7d",
  "        .statement \x7b",
  "            margin-bottom: 1rem;",
  "            padding: 1rem;",
  "            background: #f9f9f9;",
  "            border-radius: 4px;",
  "            border: 1px solid #ddd;",
  "        \x7d",
  "        .options \x7b",
  "            display: flex;",
  "            gap: 1rem;",
  "        \x7d",
  "        button \x7b",
  "            background: #007bff;",
  "            color: white;",
  "            border: none;",
  "            padding: 0.75rem 1.5rem;",
  "            border-radius: 4px;",
  "            cursor: pointer;",
  "            font-size: 1rem;",
  "            margin-top: 1rem;",
  "        \x7d",
  "        #result \x7b",
  "            margin-top: 1.5rem;",
  "            padding: 1rem;",
  "            background: #e9f5ff;",
  "            border-radius: 4px;",
  "            border: 1px solid #007bff;",
  "            color: #007bff;",
  "            font-weight: bold;",
  "        \x7d"].flatMap lineOf

def script : List Piece :=
  .plain ['\n'] ::
  lineWith "        const rules = " .rules ";" ++
  lineWith "        const allResults = " .results ";" ++
  lineWith "        const allStatements = " .statements ";" ++
  plainLines [
    "",
    "        const evaluateExpression = (expr, answers) => \x7b",
    "            if (expr.type === 'condition') \x7b",
    "                const answer = answers[expr.condition.variable];",
    "                return expr.condition.negated ? answer === 'no' : answer === 'yes';",
    "            \x7d",
    "            if (expr.type === 'logical') \x7b",
    "                const left = evaluateExpression(expr.left, answers);",
    "                const right = evaluateExpression(expr.right, answers);",
    "                return expr.operator === 'AND' ? left && right : left || right;",
    "            \x7d",
    "            return false;",
    "        \x7d;",
    "",
    "        document.getElementById('ruleForm').addEventListener('submit', (e) => \x7b",
    "            e.preventDefault();",
    "            const answers = \x7b\x7d;",
    "            new FormData(e.target).forEach((value, key) => \x7b",
    "                answers[key] = value;",
    "            \x7d);",
    "",
    "            let result = null;",
    "            rules.forEach(rule => \x7b",
    "                if (evaluateExpression(rule.expression, answers)) \x7b",
    "                    const resultVar = allResults.find(r => r.name === rule.result);",
    "                    if (resultVar) \x7b",
    "                        result = resultVar.value;",
    "                    \x7d",
    "                \x7d",
    "            \x7d);",
    "",
    "            document.getElementById('result').textContent ="] ++
  lineWith "                result === null ? " .noResult " : result;" ++
  plainLines [
    "        \x7d);"]

end Triage.Page
