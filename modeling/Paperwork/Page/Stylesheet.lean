/-
The style sheet of printed pages.
-/
namespace Paperwork.Page

/-- The lines of the style sheet. -/
def stylesheetLines : List String :=
  ["      @page \x7b margin: 1in; \x7d",
   "      :root \x7b --text-color: #111827; --muted-color: #6b7280; "
     ++ "--border-color:#e5e7eb; --bg-muted:#f9fafb; \x7d",
   "      html,body\x7bpadding:0;margin:0\x7d",
   "      body\x7bfont-family: system-ui, -apple-system, 'Segoe UI', Roboto, "
     ++ "Helvetica, Arial, 'Noto Sans', sans-serif; font-size: 12pt; line-height: 1.5; "
     ++ "color: var(--text-color); \x7d",
   "      .container\x7bmax-width: 7in; margin: 0 auto;\x7d",
   "      h1,h2,h3,h4,h5,h6\x7bmargin: 0 0 12pt 0; line-height: 1.25; font-weight: "
     ++ "700;\x7d",
   "      h1\x7bfont-size: 20pt; margin-top: 0;\x7d",
   "      h2\x7bfont-size: 16pt; margin-top: 16pt;\x7d",
   "      h3\x7bfont-size: 14pt; margin-top: 14pt;\x7d",
   "      p\x7bmargin: 0 0 10pt 0;\x7d",
   "      ul,ol\x7bmargin: 0 0 10pt 1.25rem; padding: 0;\x7d",
   "      li\x7bmargin: 4pt 0;\x7d",
   "      table\x7bborder-collapse: collapse; width: 100%; margin: 10pt 0;\x7d",
   "      th,td\x7bborder: 1px solid var(--border-color); padding: 6pt 8pt; "
     ++ "text-align: left; vertical-align: top;\x7d",
   "      thead th\x7bbackground: var(--bg-muted); font-weight: 600;\x7d",
   "      tbody tr:nth-child(even)\x7bbackground: #fafafa;\x7d",
   "      img\x7bmax-width:100%; height:auto;\x7d",
   "      hr\x7bborder:0; border-top: 1px solid var(--border-color); margin: 12pt 0;\x7d",
   "      .kv-list\x7bdisplay: grid; grid-template-columns: 1.75in 1fr; gap: 6pt "
     ++ "12pt;\x7d",
   "      .kv-label\x7bfont-weight: 600; color: var(--muted-color);\x7d",
   "      .kv-row\x7bdisplay: contents;\x7d",
   "      @media print \x7b",
   "        body\x7b-webkit-print-color-adjust: exact; print-color-adjust: exact;\x7d",
   "        table, tr, td, th \x7b page-break-inside: avoid; \x7d",
   "        h1,h2,h3\x7b page-break-after: avoid; \x7d",
   "      \x7d"]

/-- The style sheet, every line with its end, between the ends of the lines around it. -/
def stylesheet : String := "\n" ++ String.join (stylesheetLines.map (· ++ "\n"))

end Paperwork.Page
