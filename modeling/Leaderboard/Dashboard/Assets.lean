set_option autoImplicit false

namespace Leaderboard.Dashboard.Assets

def joinLines (lines : List String) : String := String.join (lines.map (· ++ "\n"))

def style : List String := [
  "",
  "body \x7b font-family: system-ui, sans-serif; margin: 2rem; background: #fff; color: " ++
    "#222; \x7d",
  "body.dark \x7b background: #121212; color: #e0e0e0; \x7d",
  "body.dark a \x7b color: #8ab4f8; \x7d",
  "nav \x7b border-bottom: 1px solid #8884; padding-bottom: .5rem; margin-bottom: 1rem; " ++
    "\x7d",
  "nav a \x7b margin-right: 1.2rem; text-decoration: none; \x7d",
  "nav a.active \x7b font-weight: 600; text-decoration: underline; \x7d",
  "table \x7b border-collapse: collapse; margin-top: 1rem; \x7d",
  "th, td \x7b padding: .35rem .7rem; border-bottom: 1px solid #8884; text-align: right; " ++
    "\x7d",
  "th:first-child, td:first-child \x7b text-align: left; font-family: monospace; \x7d",
  ".banner \x7b background: #fdecea; color: #611a15; padding: .7rem 1rem; margin: 1rem 0; " ++
    "\x7d",
  ".meta \x7b color: #888; font-size: .85rem; \x7d"]

def script : List String := [
  "",
  "function post(path, body) \x7b",
  "  return fetch(path, \x7b",
  "    method: 'POST',",
  "    headers: \x7b'Content-Type': 'application/json'\x7d,",
  "    body: JSON.stringify(body || \x7b\x7d)",
  "  \x7d);",
  "\x7d",
  "function retryFetch() \x7b",
  "  post('/api/retry').then(() => setTimeout(() => location.reload(), 1000));",
  "\x7d",
  "function toggleTheme() \x7b",
  "  post('/api/theme', \x7b\x7d).then(() => location.reload());",
  "\x7d"]

def reconnectScript : List String := ["window.addEventListener('online', retryFetch);"]

def about : List String := [
  "<h2>About</h2>",
  "<p>Evaluating a language model involves analyzing many aspects of its capabilities,",
  "from recall to solving math problems. Leaderboards such as the",
  "<a href=\"https://huggingface.co/spaces/open-llm-leaderboard/open_llm_leaderboard\" " ++
    "target=\"_blank\">Open LLM Leaderboard</a>",
  "simplify that work.</p>",
  "<p>This leaderboard gives network users the same information they look at when choosing " ++
    "an",
  "open model, with these differences:</p>",
  "<ul>",
  "<li><strong>What you see is what you get:</strong> rows are live inference endpoints, " ++
    "not model names.</li>",
  "<li><strong>Live data:</strong> tests run around the clock and scores update each time " ++
    "a node enters a session.</li>",
  "<li><strong>Trustless and permissionless:</strong> every node connected to the network " ++
    "is tracked and reported, whoever runs it.</li>",
  "</ul>",
  "<h3>Tasks</h3>",
  "<p>Models are evaluated on six benchmarks through the machine learning test bench, " ++
    "which runs the",
  "EleutherAI Language Model Evaluation Harness:</p>",
  "<ul>",
  "<li><a href=\"https://arxiv.org/abs/1803.05457\" target=\"_blank\">AI2 Reasoning " ++
    "Challenge</a> (25-shot): grade-school science questions.</li>",
  "<li><a href=\"https://arxiv.org/abs/1905.07830\" target=\"_blank\">HellaSwag</a> " ++
    "(10-shot): commonsense inference, easy for humans but hard for models.</li>",
  "<li><a href=\"https://arxiv.org/abs/2009.03300\" target=\"_blank\">MMLU</a> (5-shot): " ++
    "multitask accuracy over 57 subjects.</li>",
  "<li><a href=\"https://arxiv.org/abs/2109.07958\" target=\"_blank\">TruthfulQA</a> " ++
    "(0-shot): propensity to repeat common falsehoods.</li>",
  "<li><a href=\"https://arxiv.org/abs/1907.10641\" target=\"_blank\">Winogrande</a> " ++
    "(5-shot): adversarial Winograd schemas for commonsense reasoning.</li>",
  "<li><a href=\"https://arxiv.org/abs/2110.14168\" target=\"_blank\">GSM8k</a> (5-shot): " ++
    "multi-step grade-school math word problems.</li>",
  "</ul>",
  "<p>Live endpoints are not run over whole datasets. Each task (or MMLU sub-task) uses 50 " ++
    "samples,",
  "which moves accuracy by less than 5% (<a href=\"http://arxiv.org/abs/2402.14992\" " ++
    "target=\"_blank\">tinyBenchmarks, Polo et al.</a>).",
  "A higher score is better.</p>",
  "<h3>Reproducibility</h3>",
  "<p>The code producing these results is in the",
  "<a href=\"https://github.com/pokt-scan/pocket-ml-testbench\" target=\"_blank\">Machine " ++
    "Learning Test Bench</a> repository.",
  "Results are not numerically exact: they depend on a random sample of each dataset and " ++
    "node performance varies over time.</p>"]

end Leaderboard.Dashboard.Assets
