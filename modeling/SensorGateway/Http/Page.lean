/-
# SensorGateway.Http.Page -- the status page

A page for people: how many sessions there are, whether control is held, whether a
recording runs, the servers, and links to what can be read. Names and URLs stand on
the page as they are in the settings.
-/
import SensorGateway.Gateway.State

namespace SensorGateway.Http.Page

/-- Lines of text, each with its break. -/
def lines (ls : List String) : String := String.join (ls.map (· ++ "\n"))

/-- The head of the page. -/
def head : String := lines
  ["<!DOCTYPE html>",
   "<html lang=\"en\">",
   "<head>",
   "    <meta charset=\"utf-8\">",
   "    <title>Sensor Gateway</title>",
   "    <style>",
   "        body \x7b",
   "            background: #0d1117;",
   "            color: #c9d1d9;",
   "            font-family: 'Cascadia Code', 'Fira Code', 'Consolas', monospace;",
   "            padding: 2rem;",
   "            max-width: 800px;",
   "            margin: 0 auto;",
   "        \x7d",
   "        h1 \x7b color: #58a6ff; margin-bottom: 0.25rem; \x7d",
   "        .subtitle \x7b color: #8b949e; margin-top: 0; \x7d",
   "        .metric \x7b",
   "            display: inline-block;",
   "            background: #161b22;",
   "            border: 1px solid #30363d;",
   "            border-radius: 6px;",
   "            padding: 1rem 1.5rem;",
   "            margin: 0.5rem 0.5rem 0.5rem 0;",
   "            min-width: 120px;",
   "        \x7d",
   "        .metric .label \x7b color: #8b949e; font-size: 0.85rem; \x7d",
   "        .metric .value \x7b color: #58a6ff; font-size: 1.5rem; font-weight: bold; \x7d",
   "        a \x7b color: #58a6ff; text-decoration: none; \x7d",
   "        ul \x7b list-style: none; padding: 0; \x7d",
   "        li \x7b padding: 0.3rem 0; \x7d",
   "        hr \x7b border: none; border-top: 1px solid #30363d; margin: 1.5rem 0; \x7d",
   "    </style>",
   "</head>"]

/-- A figure with its label. -/
def metric (label value : String) : String := lines
  ["        <div class=\"metric\">",
   "            <div class=\"label\">" ++ label ++ "</div>",
   "            <div class=\"value\">" ++ value ++ "</div>",
   "        </div>"]

/-- A server in the list. -/
def serverRow (s : Server) : String := lines
  ["        <li><code>" ++ s.id ++ "</code> " ++ s.name ++ " -- " ++ s.url ++ " (" ++
    (if s.connected then "connected" else "offline") ++ ")</li>"]

/-- A link with its description. -/
def link (path description : String) : String := lines
  ["        <li><a href=\"" ++ path ++ "\">" ++ path ++ "</a> -- " ++ description ++ "</li>"]

/-- The figures at the top. -/
def figures (g : Gateway) : String :=
  metric "Sessions" (toString g.bus.sessions.length) ++
    metric "Control" (if g.arbiter.current.hasController then "HELD" else "FREE") ++
    metric "Recording" (if g.recorder.isRecording then "RECORDING" else "IDLE") ++
    metric "Records" (toString g.recorder.status.count.toNat)

/-- The links at the bottom. -/
def links : String :=
  link "/api/events" "SSE push stream" ++
    link "/api/servers" "Configured servers" ++
    link "/api/control/status" "Control state" ++
    link "/api/recording/status" "Recording state" ++
    link "/api/export/csv" "Download recording as CSV" ++
    link "/api/export/json" "Download recording as JSON" ++
    link "/api/export/database" "Download recording as SQLite"

/-- The whole page. -/
def html (g : Gateway) : String :=
  head ++
    lines
      ["<body>",
       "    <h1>Sensor Gateway</h1>",
       "    <p class=\"subtitle\">Live sensor monitoring and recording</p>",
       "",
       "    <div>"] ++
    figures g ++
    lines
      ["    </div>",
       "",
       "    <hr>",
       "",
       "    <h2>Servers</h2>",
       "    <ul>"] ++
    String.join (g.registry.servers.map serverRow) ++
    lines
      ["    </ul>",
       "",
       "    <h2>API Endpoints</h2>",
       "    <ul>"] ++
    links ++
    lines
      ["    </ul>",
       "</body>"] ++
    "</html>"

end SensorGateway.Http.Page
