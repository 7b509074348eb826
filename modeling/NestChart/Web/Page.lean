import NestChart.Text.Markup

/-!
# NestChart.Web.Page

The pages of the server: the upload form, the chart of an upload, and the refusal of one. Names and
messages are escaped where they enter a page; a chart is markup already.
-/

namespace NestChart.Web.Page

open Text

/-- Text with a line end before and after each line. -/
def block (lines : List String) : Chars :=
  '\n' :: lines.flatMap fun l => l.toList ++ ['\n']

def style : Chars := block [
  "body \x7b",
  "    font-family: sans-serif;",
  "    background: #1e1e1e;",
  "    color: #fff;",
  "    margin: 0;",
  "    padding: 40px;",
  "    display: flex;",
  "    flex-direction: column;",
  "    align-items: center;",
  "\x7d",
  "h1 \x7b color: #FFD700; \x7d",
  "form, .flowchart-container, .message \x7b",
  "    background: rgba(255, 255, 255, 0.1);",
  "    padding: 30px;",
  "    border-radius: 12px;",
  "\x7d",
  ".flowchart-container \x7b max-width: 95%; overflow-x: auto; transform-origin: top left; \x7d",
  "button, a.button \x7b",
  "    background: #FFD700;",
  "    color: #333;",
  "    border: none;",
  "    border-radius: 5px;",
  "    padding: 10px 20px;",
  "    cursor: pointer;",
  "    text-decoration: none;",
  "    font-size: 1rem;",
  "\x7d",
  "button:hover, a.button:hover \x7b background: #FF9900; \x7d",
  ".zoom-controls \x7b",
  "    position: fixed;",
  "    left: 20px;",
  "    bottom: 20px;",
  "    display: flex;",
  "    flex-direction: column;",
  "    gap: 8px;",
  "\x7d"]

def script : Chars := block [
  "let zoomLevel = 1;",
  "const container = document.getElementById('flowchart-container');",
  "document.getElementById('zoom-in').addEventListener('click', () => \x7b",
  "    zoomLevel += 0.1;",
  "    container.style.transform = `scale($\x7bzoomLevel\x7d)`;",
  "\x7d);",
  "document.getElementById('zoom-out').addEventListener('click', () => \x7b",
  "    zoomLevel = Math.max(0.5, zoomLevel - 0.1);",
  "    container.style.transform = `scale($\x7bzoomLevel\x7d)`;",
  "\x7d);"]

/-- A whole page. -/
def document (title body : Chars) : Chars :=
  "<!DOCTYPE html>\n<html lang=\"en\">\n<head>\n<meta charset=\"UTF-8\">\n".toList ++
    "<title>".toList ++ title ++ "</title>\n<style>".toList ++ style ++ "</style>\n</head>\n<body>\n".toList ++ body ++
    "\n</body>\n</html>\n".toList

/-- The upload form. -/
def index : Chars :=
  document "Flowchart Generator".toList
    ("<h1>Flowchart Generator</h1>\n".toList ++
      "<form enctype=\"multipart/form-data\" method=\"post\" action=\"/upload\">\n".toList ++
      "<label for=\"file\">Upload a C or Python file</label><br>\n".toList ++
      "<input type=\"file\" name=\"file\" id=\"file\" accept=\".c,.h,.py\" required>".toList ++
      "<br><br>\n".toList ++
      "<button type=\"submit\">Generate Flowchart</button>\n".toList ++
      "</form>".toList)

/-- What stands in the place of an empty chart. -/
def emptyNote : Chars := "<p>Nothing to draw: the file has no code lines.</p>".toList

/-- The chart of an upload, given as markup. -/
def result (filename markup : Chars) : Chars :=
  let chart := if markup.isEmpty then emptyNote else markup
  document "Flowchart Result".toList
    ("<h1>Flowchart for ".toList ++ Markup.escape filename ++ "</h1>\n".toList ++
      "<div class=\"flowchart-container\" id=\"flowchart-container\">\n".toList ++ chart ++
      "</div>\n".toList ++
      "<p><a class=\"button\" href=\"/\">Upload another file</a></p>\n".toList ++
      "<div class=\"zoom-controls\">\n".toList ++
      "<button id=\"zoom-in\">+</button>\n".toList ++
      "<button id=\"zoom-out\">-</button>\n".toList ++
      "</div>\n".toList ++
      "<script>".toList ++ script ++ "</script>".toList)

/-- The refusal of an upload. -/
def refusal (message : Chars) : Chars :=
  document "Upload failed".toList
    ("<h1>Upload failed</h1>\n<div class=\"message\">".toList ++ Markup.escape message ++
      "</div>\n<p><a class=\"button\" href=\"/\">Try again</a></p>".toList)

end NestChart.Web.Page
