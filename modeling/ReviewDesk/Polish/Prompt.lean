import ReviewDesk.Text.Mark

/-!
# The request for a polished review

The chat model is given two messages: what an editor should do, and the review.
-/

namespace ReviewDesk
namespace Prompt

open Text

def system : String :=
  "你是一位经验丰富的书评编辑。请在保留作者原意、观点和语气的前提下润色读者提交的书评。\n\n要求：\n" ++
    "1. 修正错别字、语法和不通顺的句子\n" ++
    "2. 让结构更清晰，段落之间衔接自然\n" ++
    "3. 不要编造书中没有的情节或作者没有表达的观点\n" ++
    "4. 使用与原文相同的语言输出\n" ++
    "5. 只输出润色后的书评正文，不要有额外说明"

def human (title content : List Mark) : List Mark :=
  marks "书名：" ++ title ++ marks "\n\n原始书评：\n" ++ content ++
    marks "\n\n请输出润色后的书评："

end Prompt
end ReviewDesk
