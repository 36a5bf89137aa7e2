/-! # The script of the preview page

What runs in the page that shows a preview: it listens to the stream of messages, applies
each one, and posts the wish for an export. Texts of errors are inserted as texts.
-/

namespace Wireframe.Preview

/-- The lines of the script. -/
def scriptLines : List String :=
  ["// TextUI live preview surface.",
   "// Applies host messages in delivery order; error text is always inserted",
   "// with textContent so it is displayed, never interpreted.",
   "(function () \x7b",
   "  \"use strict\";",
   "",
   "  var root = document.getElementById(\"textui-root\");",
   "  var banner = document.getElementById(\"textui-banner\");",
   "  var themeStyle = document.getElementById(\"textui-theme\");",
   "  var state = \"uninitialized\";",
   "",
   "  function post(message) \x7b",
   "    return fetch(\"/message\", \x7b",
   "      method: \"POST\",",
   "      headers: \x7b \"Content-Type\": \"application/json\" \x7d,",
   "      body: JSON.stringify(message),",
   "    \x7d);",
   "  \x7d",
   "",
   "  function showError(label, text) \x7b",
   "    banner.textContent = \"\";",
   "    var strong = document.createElement(\"strong\");",
   "    strong.textContent = label;",
   "    banner.appendChild(strong);",
   "    banner.appendChild(document.createTextNode(\" \" + text));",
   "    banner.hidden = false;",
   "    state = \"error\";",
   "  \x7d",
   "",
   "  function apply(message) \x7b",
   "    switch (message.type) \x7b",
   "      case \"update\":",
   "        state = \"updating\";",
   "        themeStyle.textContent = message.cssVariables;",
   "        root.innerHTML = message.fragment;",
   "        banner.hidden = true;",
   "        banner.textContent = \"\";",
   "        state = \"ready\";",
   "        break;",
   "      case \"error\":",
   "        showError(\"Error\", message.message);",
   "        break;",
   "      case \"schema-error\":",
   "        showError(message.path ? \"Schema error at \" + message.path : \"Schema error\", message.message);",
   "        break;",
   "      case \"theme-variables\":",
   "        themeStyle.textContent = message.cssVariables;",
   "        break;",
   "      case \"openDevTools\":",
   "        console.info(\"[textui] open the browser developer tools to inspect the preview\");",
   "        break;",
   "      default:",
   "        console.warn(\"[textui] unknown message type\", message.type);",
   "    \x7d",
   "  \x7d",
   "",
   "  var events = new EventSource(\"/events\");",
   "  events.onmessage = function (event) \x7b",
   "    apply(JSON.parse(event.data));",
   "  \x7d;",
   "",
   "  document.getElementById(\"textui-export\").addEventListener(\"click\", function () \x7b",
   "    post(\x7b type: \"export\" \x7d);",
   "  \x7d);",
   "",
   "  state = \"ready\";",
   "  post(\x7b type: \"ready\" \x7d);",
   "\x7d)();"]

/-- The script of the preview page. -/
def script : String := String.join (scriptLines.map (· ++ "\n"))

end Wireframe.Preview
