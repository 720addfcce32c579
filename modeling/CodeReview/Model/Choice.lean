import CodeReview.Model.ChatApi
import CodeReview.Model.Mock

/-!
The provider that the settings ask for.
-/

namespace CodeReview

def Provider.ofSettings (send : ChatApi.Transport) (s : ProviderSettings) :
    Except Failure Provider :=
  match s.kind with
  | .mock => .ok (Mock.provider s.mockDim)
  | .openAi => (ChatApi.Client.ofSettings s).map (ChatApi.provider send)

end CodeReview
