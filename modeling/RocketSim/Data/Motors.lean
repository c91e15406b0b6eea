/-!
# Data files: motor thrust curves

Motor definition files: thrust curves and the oxidizer and fuel mass and centre of gravity histories. Each entry is a path relative to the repository root and the file's text.
-/

namespace RocketSim
namespace Repository

/-- The motor thrust curves, by path. -/
def motorsFiles : List (String × String) :=
  [
    ("MAPLEAF/Examples/Motors/B4-4.txt",
      "BurnedOxidizerInitialCG  -0.0\nBurnedOxidizerLastCG     -0.0\nBurnedFuelInitialCG     -0.525\nBurnedFuelLastCG        -0.525\n\n#Time(s)   Thrust(N)   OxidizerFlowRate(kg/s)  FuelBurnRate(kg/s)\n0\t0.1045\t0\t3.2667E-03\t(0 0 0)\t(0.0000025697 0.0000025697 0.00000024283)\n0.01\t0.3135\t0\t3.2667E-03\t(0 0 0)\t(0.0000025697 0.0000025697 0.00000024283)\n0.02\t0.73175\t0\t3.2667E-03\t(0 0 0)\t(0.0000025684 0.0000025684 0.00000024271)\n0.03\t1.3592\t0\t3.2667E-03\t(0 0 0)\t(0.0000025647 0.0000025647 0.00000024236)\n0.04\t2.1536\t0\t3.2667E-03\t(0 0 0)\t(0.0000025584 0.0000025584 0.00000024176)\n0.05\t3.1148\t0\t3.2667E-03\t(0 0 0)\t(0.0000025467 0.0000025467 0.00000024065)\n0.06\t4.1192\t0\t3.2667E-03\t(0 0 0)\t(0.0000025294 0.0000025294 0.00000023903)\n0.07\t5.383\t0\t3.2667E-03\t(0 0 0)\t(0.0000025085 0.0000025085 0.00000023704)\n0.08\t6.69\t0\t3.2667E-03\t(0 0 0)\t(0.0000024799 0.0000024799 0.00000023435)\n0.09\t7.8912\t0\t3.2667E-03\t(0 0 0)\t(0.0000024438 0.0000024438 0.00000023093)\n0.098381\t8.8629\t0\t1.3773E-02\t(0 0 0)\t(0.0000024036 0.0000024036 0.00000022714)\n0.10487\t9.7078\t0\t1.3773E-02\t(0 0 0)\t(0.000002368 0.000002368 0.00000022377)\n0.11029\t10.5\t0\t1.3773E-02\t(0 0 0)\t(0.0000023356 0.0000023356 0.00000022071)\n0.11499\t11.196\t0\t1.3773E-02\t(0 0 0)\t(0.0000023042 0.0000023042 0.00000021774)\n0.11918\t11.649\t0\t1.3773E-02\t(0 0 0)\t(0.0000022764 0.0000022764 0.00000021511)\n0.12297\t11.917\t0\t1.3773E-02\t(0 0 0)\t(0.0000022494 0.0000022494 0.00000021257)\n0.12645\t12.238\t0\t1.3773E-02\t(0 0 0)\t(0.000002223 0.000002223 0.00000021007)\n0.13167\t12.623\t0\t1.3773E-02\t(0 0 0)\t(0.0000021914 0.0000021914 0.00000020709)\n0.13949\t12.291\t0\t1.3773E-02\t(0 0 0)\t(0.0000021438 0.0000021438 0.00000020259)\n0.15123\t11.475\t0\t1.3773E-02\t(0 0 0)\t(0.0000020718 0.0000020718 0.00000019578)\n0.16883\t9.6561\t0\t1.3773E-02\t(0 0 0)\t(0.0000019683 0.0000019683 0.000000186)\n0.19524\t5.544\t0\t1.3773E-02\t(0 0 0)\t(0.0000018318 0.0000018318 0.0000001731)\n0.23486\t4.2425\t0\t5.0937E-03\t(0 0 0)\t(0.0000016895 0.0000016895 0.00000015965)\n0.28486\t3.8656\t0\t5.0937E-03\t(0 0 0)\t(0.0000015605 0.0000015605 0.00000014746)\n0.33486\t3.7037\t0\t5.0937E-03\t(0 0 0)\t(0.0000014386 0.0000014386 0.00000013595)\n0.37166\t3.6095\t0\t5.0937E-03\t(0 0 0)\t(0.0000013396 0.0000013396 0.00000012659)\n0.42132\t3.5144\t0\t5.0937E-03\t(0 0 0)\t(0.0000012448 0.0000012448 0.00000011763)\n0.47082\t3.4325\t0\t5.0937E-03\t(0 0 0)\t(0.0000011391 0.0000011391 0.00000010764)\n0.52082\t3.3624\t0\t5.0937E-03\t(0 0 0)\t(0.0000010362 0.0000010362 0.00000009792)\n0.55834\t3.345\t0\t5.0937E-03\t(0 0 0)\t(0.000000946 0.000000946 8.93999999999999E-08)\n0.58677\t3.345\t0\t5.0937E-03\t(0 0 0)\t(0.000000879 0.000000879 0.00000008306)\n0.62941\t3.345\t0\t5.0937E-03\t(0 0 0)\t(0.0000008077 0.0000008077 0.00000007633)\n0.67941\t3.345\t0\t5.0937E-03\t(0 0 0)\t(0.0000007149 0.0000007149 0.00000006755)\n0.71967\t3.345\t0\t5.0937E-03\t(0 0 0)\t(6.24399999999999E-07 6.24399999999999E-07 0.000000059)\n0.74504\t3.345\t0\t5.0937E-03\t(0 0 0)\t(0.0000005586 0.0000005586 0.00000005279)\n0.76548\t3.345\t0\t5.0937E-03\t(0 0 0)\t(0.0000005127 0.0000005127 4.84499999999999E-08)\n0.79614\t3.345\t0\t5.0937E-03\t(0 0 0)\t(0.0000004614 0.0000004614 0.00000004361)\n0.81576\t3.345\t0\t5.0937E-03\t(0 0 0)\t(0.000000411 0.000000411 0.00000003884)\n0.84519\t3.3453\t0\t5.0937E-03\t(0 0 0)\t(0.0000003618 0.0000003618 0.00000003419)\n0.86599\t3.3701\t0\t5.0937E-03\t(0 0 0)\t(0.0000003114 0.0000003114 0.00000002943)\n0.89718\t3.4071\t0\t5.0937E-03\t(0 0 0)\t(0.0000002588 0.0000002588 0.00000002446)\n0.92078\t3.442\t0\t5.0937E-03\t(0 0 0)\t(0.000000203 0.000000203 1.91799999999999E-08)\n0.95618\t3.2217\t0\t5.0937E-03\t(0 0 0)\t(1.42699999999999E-07 1.42699999999999E-07 0.00000001349)\n1.0062\t0.96908\t0\t5.0937E-03\t(0 0 0)\t(5.80000000000001E-09 5.80000000000001E-09 5.49999999999935E-10)\n1.024\t0.042613\t0\t6.3694E-05\t(0 0 0)\t(0 0 0)\n1.0507\t0\t0\t6.3694E-05\t(0 0 0)\t(0 0 0)\n"),
    ("MAPLEAF/Examples/Motors/C6-3.txt",
      "BurnedOxidizerInitialCG -0.0\nBurnedOxidizerLastCG    -0.0\nBurnedFuelInitialCG     -0.525\nBurnedFuelLastCG        -0.525\n\n#Time(s)   Thrust(N)   OxidizerFlowRate(kg/s)  FuelBurnRate(kg/s) OxMOI FuelMOI\n0\t    0.030156\t0\t2.5700E-03\t(0 0 0)\t(0.0000053461 0.0000053461 0.00000050534)\n0.01\t0.090469\t0\t2.5700E-03\t(0 0 0)\t(0.0000053461 0.0000053461 0.00000050534)\n0.02\t0.15078\t0\t2.5700E-03\t(0 0 0)\t(0.000005344 0.000005344 0.00000050515)\n0.03\t0.21109\t0\t2.5700E-03\t(0 0 0)\t(0.000005342 0.000005342 0.00000050495)\n0.04\t0.27141\t0\t2.5700E-03\t(0 0 0)\t(0.0000053399 0.0000053399 0.00000050476)\n0.05\t0.33172\t0\t2.5700E-03\t(0 0 0)\t(0.0000053378 0.0000053378 0.00000050456)\n0.06\t0.39203\t0\t2.5700E-03\t(0 0 0)\t(0.0000053357 0.0000053357 0.00000050436)\n0.07\t0.45234\t0\t2.5700E-03\t(0 0 0)\t(0.0000053337 0.0000053337 0.00000050417)\n0.08\t0.51266\t0\t2.5700E-03\t(0 0 0)\t(0.0000053316 0.0000053316 0.00000050397)\n0.09\t0.59474\t0\t2.5700E-03\t(0 0 0)\t(0.0000053295 0.0000053295 0.00000050378)\n0.1\t    0.87825\t0\t2.5700E-03\t(0 0 0)\t(0.0000053257 0.0000053257 0.00000050342)\n0.11\t1.2107\t0\t2.5700E-03\t(0 0 0)\t(0.0000053175 0.0000053175 0.00000050264)\n0.12\t1.5432\t0\t2.5700E-03\t(0 0 0)\t(0.0000053067 0.0000053067 0.00000050162)\n0.13\t1.8757\t0\t2.5700E-03\t(0 0 0)\t(0.0000052959 0.0000052959 0.0000005006)\n0.14\t2.2082\t0\t2.5700E-03\t(0 0 0)\t(0.0000052851 0.0000052851 0.00000049958)\n0.15\t2.6274\t0\t2.5700E-03\t(0 0 0)\t(0.0000052744 0.0000052744 0.00000049856)\n0.16\t3.2255\t0\t2.5700E-03\t(0 0 0)\t(0.0000052581 0.0000052581 0.00000049703)\n0.17\t3.8289\t0\t2.5700E-03\t(0 0 0)\t(0.0000052351 0.0000052351 0.00000049486)\n0.18\t4.426\t0\t2.5700E-03\t(0 0 0)\t(0.0000052108 0.0000052108 0.00000049255)\n0.19\t4.9968\t0\t2.5700E-03\t(0 0 0)\t(0.0000051765 0.0000051765 0.00000048932)\n0.2\t    5.5191\t0\t2.5700E-03\t(0 0 0)\t(0.0000051259 0.0000051259 0.00000048453)\n0.20839\t5.9604\t0\t1.4078E-02\t(0 0 0)\t(0.0000050732 0.0000050732 0.00000047955)\n0.21554\t6.3419\t0\t1.4078E-02\t(0 0 0)\t(0.0000050287 0.0000050287 0.00000047535)\n0.22183\t6.6807\t0\t1.4078E-02\t(0 0 0)\t(0.0000049903 0.0000049903 0.00000047172)\n0.22747\t6.9872\t0\t1.4078E-02\t(0 0 0)\t(0.0000049561 0.0000049561 0.00000046849)\n0.23262\t7.2681\t0\t1.4078E-02\t(0 0 0)\t(0.0000049252 0.0000049252 0.00000046557)\n0.23736\t7.6051\t0\t1.4078E-02\t(0 0 0)\t(0.0000048969 0.0000048969 0.00000046289)\n0.24448\t8.1105\t0\t1.4078E-02\t(0 0 0)\t(0.0000048629 0.0000048629 0.00000045968)\n0.25516\t8.8686\t0\t1.4078E-02\t(0 0 0)\t(0.000004812 0.000004812 0.00000045487)\n0.27118\t10.006\t0\t1.4078E-02\t(0 0 0)\t(0.0000047356 0.0000047356 0.00000044765)\n0.2952\t11.413\t0\t1.4078E-02\t(0 0 0)\t(0.0000046209 0.0000046209 0.00000043681)\n0.33124\t10.633\t0\t1.4078E-02\t(0 0 0)\t(0.0000044241 0.0000044241 0.00000041822)\n0.38124\t6.1885\t0\t1.4078E-02\t(0 0 0)\t(0.0000041147 0.0000041147 0.00000038897)\n0.43124\t4.9759\t0\t5.7128E-03\t(0 0 0)\t(0.0000038154 0.0000038154 0.0000003607)\n0.48124\t4.4229\t0\t5.7128E-03\t(0 0 0)\t(0.0000036115 0.0000036115 0.00000034143)\n0.53124\t3.9908\t0\t5.7128E-03\t(0 0 0)\t(0.0000034429 0.0000034429 0.00000032549)\n0.58124\t3.7641\t0\t5.7128E-03\t(0 0 0)\t(0.0000032907 0.0000032907 0.00000031112)\n0.61607\t3.5957\t0\t5.7128E-03\t(0 0 0)\t(0.0000031735 0.0000031735 0.00000030004)\n0.64489\t3.5135\t0\t5.7128E-03\t(0 0 0)\t(0.0000030871 0.0000030871 0.00000029187)\n0.68732\t3.4911\t0\t5.7128E-03\t(0 0 0)\t(0.0000029963 0.0000029963 0.00000028329)\n0.71163\t3.4707\t0\t5.7128E-03\t(0 0 0)\t(0.0000029148 0.0000029148 0.00000027559)\n0.7481\t3.4418\t0\t5.7128E-03\t(0 0 0)\t(0.0000028406 0.0000028406 0.00000026858)\n0.7981\t3.4172\t0\t5.7128E-03\t(0 0 0)\t(0.000002735 0.000002735 0.0000002586)\n0.82136\t3.3997\t0\t5.7128E-03\t(0 0 0)\t(0.0000026456 0.0000026456 0.00000025015)\n0.85035\t3.382\t0\t5.7128E-03\t(0 0 0)\t(0.0000025818 0.0000025818 0.00000024412)\n0.87418\t3.3651\t0\t5.7128E-03\t(0 0 0)\t(0.0000025173 0.0000025173 0.00000023803)\n0.90076\t3.3481\t0\t5.7128E-03\t(0 0 0)\t(0.0000024557 0.0000024557 0.00000023221)\n0.92471\t3.3292\t0\t5.7128E-03\t(0 0 0)\t(0.000002394 0.000002394 0.00000022638)\n0.95709\t3.3093\t0\t5.7128E-03\t(0 0 0)\t(0.0000023253 0.0000023253 0.00000021988)\n0.98425\t3.2958\t0\t5.7128E-03\t(0 0 0)\t(0.0000022526 0.0000022526 0.00000021302)\n1.0176\t3.2883\t0\t5.7128E-03\t(0 0 0)\t(0.0000021804 0.0000021804 0.0000002062)\n1.0361\t3.2816\t0\t5.7128E-03\t(0 0 0)\t(0.0000021197 0.0000021197 0.00000020046)\n1.0638\t3.2736\t0\t5.7128E-03\t(0 0 0)\t(0.0000020657 0.0000020657 0.00000019535)\n1.0912\t3.2669\t0\t5.7128E-03\t(0 0 0)\t(0.0000020012 0.0000020012 0.00000018926)\n1.1097\t3.2602\t0\t5.7128E-03\t(0 0 0)\t(0.0000019475 0.0000019475 0.00000018418)\n1.1374\t3.2535\t0\t5.7128E-03\t(0 0 0)\t(0.0000018934 0.0000018934 0.00000017907)\n1.1559\t3.2138\t0\t5.7128E-03\t(0 0 0)\t(0.0000018392 0.0000018392 0.00000017395)\n1.1838\t3.0835\t0\t5.7128E-03\t(0 0 0)\t(0.000001786 0.000001786 0.00000016892)\n1.22\t3.0332\t0\t5.7128E-03\t(0 0 0)\t(0.0000017136 0.0000017136 0.00000016208)\n1.2418\t3.0522\t0\t5.7128E-03\t(0 0 0)\t(0.0000016468 0.0000016468 0.00000015577)\n1.2601\t3.074\t0\t5.7128E-03\t(0 0 0)\t(0.0000015991 0.0000015991 0.00000015126)\n1.2875\t3.0956\t0\t5.7128E-03\t(0 0 0)\t(0.0000015446 0.0000015446 0.00000014611)\n1.3057\t3.1172\t0\t5.7128E-03\t(0 0 0)\t(0.0000014902 0.0000014902 0.00000014097)\n1.333\t3.1389\t0\t5.7128E-03\t(0 0 0)\t(0.0000014359 0.0000014359 0.00000013584)\n1.3512\t3.1605\t0\t5.7128E-03\t(0 0 0)\t(0.0000013816 0.0000013816 0.00000013071)\n1.3784\t3.1823\t0\t5.7128E-03\t(0 0 0)\t(0.0000013274 0.0000013274 0.00000012559)\n1.3972\t3.2016\t0\t5.7128E-03\t(0 0 0)\t(0.0000012725 0.0000012725 0.0000001204)\n1.419\t3.22\t0\t5.7128E-03\t(0 0 0)\t(0.0000012241 0.0000012241 0.00000011583)\n1.4359\t3.2402\t0\t5.7128E-03\t(0 0 0)\t(0.0000011779 0.0000011779 0.00000011146)\n1.4614\t3.2601\t0\t5.7128E-03\t(0 0 0)\t(0.0000011274 0.0000011274 0.00000010668)\n1.478\t3.2781\t0\t5.7128E-03\t(0 0 0)\t(0.0000010772 0.0000010772 0.00000010194)\n1.4991\t3.3032\t0\t5.7128E-03\t(0 0 0)\t(0.0000010322 0.0000010322 0.00000009769)\n1.5308\t3.3329\t0\t5.7128E-03\t(0 0 0)\t(0.0000009692 0.0000009692 9.17399999999999E-08)\n1.5616\t3.361\t0\t5.7128E-03\t(0 0 0)\t(0.0000008946 0.0000008946 0.00000008469)\n1.59\t3.3818\t0\t5.7128E-03\t(0 0 0)\t(0.000000824 0.000000824 0.00000007801)\n1.6053\t3.4\t0\t5.7128E-03\t(0 0 0)\t(0.0000007719 0.0000007719 0.00000007309)\n1.6283\t3.4272\t0\t5.7128E-03\t(0 0 0)\t(0.0000007262 0.0000007262 0.00000006878)\n1.6627\t3.4506\t0\t5.7128E-03\t(0 0 0)\t(0.0000006578 0.0000006578 0.00000006231)\n1.6774\t3.4644\t0\t5.7128E-03\t(0 0 0)\t(5.99299999999999E-07 5.99299999999999E-07 0.00000005678)\n1.6917\t3.4814\t0\t5.7128E-03\t(0 0 0)\t(0.0000005646 0.0000005646 0.00000005351)\n1.7133\t3.5\t0\t5.7128E-03\t(0 0 0)\t(0.0000005219 0.0000005219 0.00000004946)\n1.7308\t3.5181\t0\t5.7128E-03\t(0 0 0)\t(4.75299999999999E-07 4.75299999999999E-07 0.00000004506)\n1.7515\t3.5346\t0\t5.7128E-03\t(0 0 0)\t(0.0000004296 0.0000004296 0.00000004075)\n1.7655\t3.5513\t0\t5.7128E-03\t(0 0 0)\t(0.0000003883 0.0000003883 0.00000003684)\n1.7865\t3.5677\t0\t5.7128E-03\t(0 0 0)\t(0.0000003465 0.0000003465 0.00000003289)\n1.8001\t3.5839\t0\t5.7128E-03\t(0 0 0)\t(0.0000003052 0.0000003052 0.00000002899)\n1.8206\t3.6008\t0\t5.7128E-03\t(0 0 0)\t(0.0000002646 0.0000002646 0.00000002515)\n1.8357\t3.6188\t0\t5.7128E-03\t(0 0 0)\t(0.0000002221 0.0000002221 0.00000002114)\n1.8584\t3.6192\t0\t5.7128E-03\t(0 0 0)\t(0.0000001771 0.0000001771 0.00000001688)\n1.8864\t2.8795\t0\t5.7128E-03\t(0 0 0)\t(7.40999999999998E-08 7.40999999999998E-08 7.15999999999997E-09)\n1.9004\t1.892\t0\t5.7128E-03\t(0 0 0)\t(7.40999999999998E-08 7.40999999999998E-08 7.15999999999997E-09)\n1.9155\t1.0407\t0\t5.7128E-03\t(0 0 0)\t(4.91999999999995E-08 4.91999999999995E-08 4.79999999999999E-09)\n1.9382\t0.61152\t0\t5.7128E-04\t(0 0 0)\t(1.55000000000001E-08 1.55000000000001E-08 1.60999999999997E-09)\n1.9722\t0.23982\t0\t5.7128E-03\t(0 0 0)\t(5.10000000000017E-09 5.10000000000017E-09 6.29999999999973E-10)\n1.989\t0.018574\t0\t4.9462E-04\t(0 0 0)\t(0 0 1.49999999999958E-10)\n2.0   \t0\t0\t4.9462E-04\t(0 0 0)\t(0 0 1.49999999999958E-10)"),
    ("MAPLEAF/Examples/Motors/Empty.txt",
      "BurnedOxidizerInitialCG   0\nBurnedOxidizerLastCG      0\nBurnedFuelInitialCG       0\nBurnedFuelLastCG          0\n\n#Time(s)   Thrust(N)   OxidizerFlowRate(kg/s)  FuelBurnRate(kg/s)\n0       0       0       0 (0 0 0) (0 0 0)\n1       0       0       0 (0 0 0) (0 0 0)"),
    ("MAPLEAF/Examples/Motors/J115.txt",
      "BurnedOxidizerInitialCG -0.0\nBurnedOxidizerLastCG    -0.0\nBurnedFuelInitialCG     -1.583\nBurnedFuelLastCG        -1.583\n\n#Time(s)   Thrust(N)   OxidizerFlowRate(kg/s)  FuelBurnRate(kg/s) OxMOI FuelMOI\n0\t8.4614\t0\t1.1773E-01\t(0 0 0)\t(0.012982 0.012982 0.00014976)\n0.01\t25.384\t0\t1.1773E-01\t(0 0 0)\t(0.012982 0.012982 0.00014976)\n0.02\t42.307\t0\t1.1773E-01\t(0 0 0)\t(0.012961 0.012961 0.00014952)\n0.03\t59.229\t0\t1.1773E-01\t(0 0 0)\t(0.01294 0.01294 0.00014927)\n0.04\t76.152\t0\t1.1773E-01\t(0 0 0)\t(0.012919 0.012919 0.00014903)\n0.05\t93.075\t0\t1.1773E-01\t(0 0 0)\t(0.012898 0.012898 0.00014879)\n0.06\t110\t0\t1.1773E-01\t(0 0 0)\t(0.012877 0.012877 0.00014854)\n0.07\t126.92\t0\t1.1773E-01\t(0 0 0)\t(0.012855 0.012855 0.0001483)\n0.08\t143.84\t0\t1.1773E-01\t(0 0 0)\t(0.012834 0.012834 0.00014805)\n0.09\t160.77\t0\t1.1773E-01\t(0 0 0)\t(0.012813 0.012813 0.00014781)\n0.1\t177.69\t0\t1.1773E-01\t(0 0 0)\t(0.012792 0.012792 0.00014757)\n0.11\t194.61\t0\t1.1773E-01\t(0 0 0)\t(0.012771 0.012771 0.00014732)\n0.12\t211.45\t0\t1.1773E-01\t(0 0 0)\t(0.01275 0.01275 0.00014708)\n0.13\t218.58\t0\t1.1773E-01\t(0 0 0)\t(0.012727 0.012727 0.00014682)\n0.14\t219.02\t0\t1.1773E-01\t(0 0 0)\t(0.012694 0.012694 0.00014643)\n0.14864\t219.4\t0\t1.1773E-01\t(0 0 0)\t(0.012653 0.012653 0.00014597)\n0.15634\t219.75\t0\t1.1773E-01\t(0 0 0)\t(0.012618 0.012618 0.00014556)\n0.16336\t220.06\t0\t1.1773E-01\t(0 0 0)\t(0.012586 0.012586 0.00014519)\n0.16986\t220.36\t0\t1.1773E-01\t(0 0 0)\t(0.012556 0.012556 0.00014485)\n0.17594\t220.71\t0\t1.1773E-01\t(0 0 0)\t(0.012529 0.012529 0.00014453)\n0.18506\t221.25\t0\t1.1773E-01\t(0 0 0)\t(0.012496 0.012496 0.00014415)\n0.19874\t222.05\t0\t1.1773E-01\t(0 0 0)\t(0.012446 0.012446 0.00014358)\n0.21926\t223.25\t0\t1.1773E-01\t(0 0 0)\t(0.012372 0.012372 0.00014272)\n0.25004\t225.05\t0\t1.1773E-01\t(0 0 0)\t(0.01226 0.01226 0.00014143)\n0.29621\t227.3\t0\t1.1773E-01\t(0 0 0)\t(0.012093 0.012093 0.0001395)\n0.34621\t229.61\t0\t1.1773E-01\t(0 0 0)\t(0.011884 0.011884 0.00013709)\n0.39621\t228.9\t0\t1.1773E-01\t(0 0 0)\t(0.011666 0.011666 0.00013458)\n0.44621\t226.16\t0\t1.1773E-01\t(0 0 0)\t(0.011449 0.011449 0.00013207)\n0.49621\t223.41\t0\t1.1773E-01\t(0 0 0)\t(0.011232 0.011232 0.00012957)\n0.54621\t220.66\t0\t1.1773E-01\t(0 0 0)\t(0.011016 0.011016 0.00012708)\n0.59621\t217.92\t0\t1.1773E-01\t(0 0 0)\t(0.010799 0.010799 0.00012458)\n0.64621\t212.61\t0\t1.1773E-01\t(0 0 0)\t(0.010583 0.010583 0.00012208)\n0.69621\t203.08\t0\t1.1773E-01\t(0 0 0)\t(0.01038 0.01038 0.00011974)\n0.74621\t193.48\t0\t1.1773E-01\t(0 0 0)\t(0.010192 0.010192 0.00011758)\n0.79621\t183.88\t0\t1.1773E-01\t(0 0 0)\t(0.010007 0.010007 0.00011544)\n0.84621\t174.28\t0\t1.1773E-01\t(0 0 0)\t(0.009822 0.009822 0.00011331)\n0.89621\t166.19\t0\t1.1773E-01\t(0 0 0)\t(0.009637 0.009637 0.00011117)\n0.94621\t164.23\t0\t1.1773E-01\t(0 0 0)\t(0.00946 0.00946 0.00010913)\n0.99621\t162.93\t0\t9.3143E-02\t(0 0 0)\t(0.009298 0.009298 0.00010726)\n1.0462\t161.62\t0\t9.3143E-02\t(0 0 0)\t(0.00914 0.00914 0.00010544)\n1.0962\t160.32\t0\t9.3143E-02\t(0 0 0)\t(0.008983 0.008983 0.00010363)\n1.1462\t159.14\t0\t9.3143E-02\t(0 0 0)\t(0.008826 0.008826 0.00010181)\n1.1962\t159.34\t0\t9.3143E-02\t(0 0 0)\t(0.008669 0.008669 0.0001)\n1.2462\t159.92\t0\t9.3143E-02\t(0 0 0)\t(0.008513 0.008513 0.0000982)\n1.2962\t160.5\t0\t9.3143E-02\t(0 0 0)\t(0.008357 0.008357 0.00009641)\n1.3462\t161.08\t0\t9.3143E-02\t(0 0 0)\t(0.008202 0.008202 0.00009461)\n1.3962\t161.65\t0\t9.3143E-02\t(0 0 0)\t(0.008046 0.008046 0.00009282)\n1.4462\t161.43\t0\t9.3143E-02\t(0 0 0)\t(0.007891 0.007891 0.00009103)\n1.4962\t160.68\t0\t9.3143E-02\t(0 0 0)\t(0.007735 0.007735 0.00008924)\n1.5462\t159.93\t0\t9.3143E-02\t(0 0 0)\t(0.00758 0.00758 0.00008745)\n1.5962\t159.18\t0\t9.3143E-02\t(0 0 0)\t(0.007425 0.007425 0.00008566)\n1.6462\t158.43\t0\t9.3143E-02\t(0 0 0)\t(0.00727 0.00727 0.00008387)\n1.6962\t157.61\t0\t9.3143E-02\t(0 0 0)\t(0.007115 0.007115 0.00008208)\n1.7462\t156.66\t0\t9.3143E-02\t(0 0 0)\t(0.006962 0.006962 0.00008031)\n1.7962\t155.72\t0\t9.3143E-02\t(0 0 0)\t(0.006811 0.006811 0.00007857)\n1.8462\t154.77\t0\t9.3143E-02\t(0 0 0)\t(0.00666 0.00666 0.00007683)\n1.8962\t153.82\t0\t9.3143E-02\t(0 0 0)\t(0.00651 0.00651 0.00007509)\n1.9462\t152.89\t0\t9.3143E-02\t(0 0 0)\t(0.006359 0.006359 0.00007336)\n1.9962\t152\t0\t9.3143E-02\t(0 0 0)\t(0.006209 0.006209 0.00007163)\n2.0462\t151.11\t0\t9.3143E-02\t(0 0 0)\t(0.006062 0.006062 0.00006994)\n2.0962\t150.23\t0\t9.3143E-02\t(0 0 0)\t(0.005916 0.005916 0.00006825)\n2.1462\t149.34\t0\t9.3143E-02\t(0 0 0)\t(0.00577 0.00577 0.00006657)\n2.1962\t148.44\t0\t9.3143E-02\t(0 0 0)\t(0.005624 0.005624 0.00006488)\n2.2462\t147.28\t0\t9.3143E-02\t(0 0 0)\t(0.005479 0.005479 0.00006321)\n2.2962\t146.06\t0\t9.3143E-02\t(0 0 0)\t(0.005337 0.005337 0.00006157)\n2.3462\t144.84\t0\t9.3143E-02\t(0 0 0)\t(0.005196 0.005196 0.00005994)\n2.3962\t143.62\t0\t9.3143E-02\t(0 0 0)\t(0.005055 0.005055 0.00005832)\n2.4462\t142.4\t0\t9.3143E-02\t(0 0 0)\t(0.004915 0.004915 0.0000567)\n2.4962\t141.35\t0\t9.3143E-02\t(0 0 0)\t(0.004774 0.004774 0.00005508)\n2.5462\t140.4\t0\t9.3143E-02\t(0 0 0)\t(0.004637 0.004637 0.00005349)\n2.5962\t139.46\t0\t9.3143E-02\t(0 0 0)\t(0.004501 0.004501 0.00005193)\n2.6462\t138.52\t0\t9.3143E-02\t(0 0 0)\t(0.004366 0.004366 0.00005037)\n2.6962\t137.57\t0\t9.3143E-02\t(0 0 0)\t(0.004231 0.004231 0.00004881)\n2.7462\t136.42\t0\t9.3143E-02\t(0 0 0)\t(0.004096 0.004096 0.00004725)\n2.7962\t134.94\t0\t9.3143E-02\t(0 0 0)\t(0.003963 0.003963 0.00004572)\n2.8462\t133.46\t0\t9.3143E-02\t(0 0 0)\t(0.003834 0.003834 0.00004423)\n2.8962\t131.97\t0\t9.3143E-02\t(0 0 0)\t(0.003705 0.003705 0.00004274)\n2.9462\t130.48\t0\t6.2067E-02\t(0 0 0)\t(0.003576 0.003576 0.00004125)\n2.9962\t129.01\t0\t6.2067E-02\t(0 0 0)\t(0.003447 0.003447 0.00003976)\n3.0462\t127.61\t0\t6.2067E-02\t(0 0 0)\t(0.00332 0.00332 0.0000383)\n3.0962\t126.21\t0\t6.2067E-02\t(0 0 0)\t(0.003197 0.003197 0.00003688)\n3.1462\t124.81\t0\t6.2067E-02\t(0 0 0)\t(0.003075 0.003075 0.00003548)\n3.1962\t123.41\t0\t6.2067E-02\t(0 0 0)\t(0.002953 0.002953 0.00003407)\n3.2462\t121.97\t0\t6.2067E-02\t(0 0 0)\t(0.002832 0.002832 0.00003267)\n3.2962\t120.2\t0\t6.2067E-02\t(0 0 0)\t(0.002712 0.002712 0.00003129)\n3.3462\t118.33\t0\t6.2067E-02\t(0 0 0)\t(0.002596 0.002596 0.00002995)\n3.3962\t116.45\t0\t6.2067E-02\t(0 0 0)\t(0.002482 0.002482 0.00002864)\n3.4462\t114.58\t0\t6.2067E-02\t(0 0 0)\t(0.002369 0.002369 0.00002733)\n3.4962\t112.69\t0\t6.2067E-02\t(0 0 0)\t(0.002256 0.002256 0.00002603)\n3.5462\t108.19\t0\t6.2067E-02\t(0 0 0)\t(0.002143 0.002143 0.00002473)\n3.5962\t101.93\t0\t6.2067E-02\t(0 0 0)\t(0.002042 0.002042 0.00002355)\n3.6462\t95.666\t0\t6.2067E-02\t(0 0 0)\t(0.001949 0.001949 0.00002249)\n3.6962\t89.405\t0\t6.2067E-02\t(0 0 0)\t(0.001856 0.001856 0.00002142)\n3.7462\t83.144\t0\t6.2067E-02\t(0 0 0)\t(0.001764 0.001764 0.00002035)\n3.7962\t77.395\t0\t6.2067E-02\t(0 0 0)\t(0.001671 0.001671 0.00001928)\n3.8462\t72.49\t0\t6.2067E-02\t(0 0 0)\t(0.00159 0.00159 0.00001835)\n3.8962\t67.599\t0\t6.2067E-02\t(0 0 0)\t(0.001524 0.001524 0.00001759)\n3.9462\t62.707\t0\t6.2067E-02\t(0 0 0)\t(0.00146 0.00146 0.00001685)\n3.9962\t57.815\t0\t6.2067E-02\t(0 0 0)\t(0.001396 0.001396 0.00001611)\n4.0462\t53.452\t0\t6.2067E-02\t(0 0 0)\t(0.001331 0.001331 0.00001536)\n4.0962\t51.229\t0\t6.2067E-02\t(0 0 0)\t(0.001272 0.001272 0.00001468)\n4.1462\t49.234\t0\t6.2067E-02\t(0 0 0)\t(0.001222 0.001222 0.0000141)\n4.1962\t47.238\t0\t9.5533E-03\t(0 0 0)\t(0.001176 0.001176 0.00001357)\n4.2462\t45.242\t0\t9.5533E-03\t(0 0 0)\t(0.001129 0.001129 0.00001303)\n4.2962\t43.321\t0\t9.5533E-03\t(0 0 0)\t(0.001082 0.001082 0.00001249)\n4.3462\t42.222\t0\t9.5533E-03\t(0 0 0)\t(0.001037 0.001037 0.00001196)\n4.3962\t41.35\t0\t9.5533E-03\t(0 0 0)\t(0.000994999999999999 0.000994999999999999 0.00001148)\n4.4462\t40.479\t0\t9.5533E-03\t(0 0 0)\t(0.000954999999999998 0.000954999999999998 0.00001103)\n4.4962\t39.607\t0\t9.5533E-03\t(0 0 0)\t(0.000916 0.000916 0.00001057)\n4.5462\t38.736\t0\t9.5533E-03\t(0 0 0)\t(0.000876999999999999 0.000876999999999999 0.00001012)\n4.5962\t37.818\t0\t9.5533E-03\t(0 0 0)\t(0.000836999999999997 0.000836999999999997 9.66000000000004E-06)\n4.6462\t36.869\t0\t9.5533E-03\t(0 0 0)\t(0.000799999999999999 0.000799999999999999 9.24000000000004E-06)\n4.6962\t35.92\t0\t9.5533E-03\t(0 0 0)\t(0.000765999999999999 0.000765999999999999 8.84000000000003E-06)\n4.7462\t34.971\t0\t9.5533E-03\t(0 0 0)\t(0.000730999999999999 0.000730999999999999 8.44000000000002E-06)\n4.7962\t34.021\t0\t9.5533E-03\t(0 0 0)\t(0.000695999999999999 0.000695999999999999 8.03000000000002E-06)\n4.8462\t33.093\t0\t9.5533E-03\t(0 0 0)\t(0.000660999999999998 0.000660999999999998 7.63000000000001E-06)\n4.8962\t32.197\t0\t9.5533E-03\t(0 0 0)\t(0.000628 0.000628 7.25000000000004E-06)\n4.9462\t31.302\t0\t9.5533E-03\t(0 0 0)\t(0.000597999999999998 0.000597999999999998 6.90000000000001E-06)\n4.9962\t30.406\t0\t9.5533E-03\t(0 0 0)\t(0.000567999999999999 0.000567999999999999 6.56000000000002E-06)\n5.0462\t29.511\t0\t9.5533E-03\t(0 0 0)\t(0.000538 0.000538 6.21000000000004E-06)\n5.0962\t28.611\t0\t9.5533E-03\t(0 0 0)\t(0.000507999999999998 0.000507999999999998 0.00000586)\n5.1462\t27.693\t0\t9.5533E-03\t(0 0 0)\t(0.000479 0.000479 5.53000000000001E-06)\n5.1962\t26.772\t0\t9.5533E-03\t(0 0 0)\t(0.000451999999999998 0.000451999999999998 5.22000000000001E-06)\n5.2462\t25.852\t0\t9.5533E-03\t(0 0 0)\t(0.000427 0.000427 0.00000493)\n5.2962\t24.931\t0\t9.5533E-03\t(0 0 0)\t(0.000400999999999999 0.000400999999999999 4.64000000000004E-06)\n5.3462\t24.019\t0\t9.5533E-03\t(0 0 0)\t(0.000375999999999998 0.000375999999999998 4.34000000000003E-06)\n5.3962\t23.191\t0\t9.5533E-03\t(0 0 0)\t(0.000350999999999997 0.000350999999999997 4.06000000000001E-06)\n5.4462\t22.388\t0\t9.5533E-03\t(0 0 0)\t(0.000328999999999999 0.000328999999999999 3.80000000000004E-06)\n5.4962\t21.584\t0\t9.5533E-03\t(0 0 0)\t(0.000307999999999999 0.000307999999999999 0.00000355)\n5.5462\t20.78\t0\t9.5533E-03\t(0 0 0)\t(0.000286999999999999 0.000286999999999999 3.31000000000002E-06)\n5.5962\t19.977\t0\t9.5533E-03\t(0 0 0)\t(0.000264999999999998 0.000264999999999998 3.07000000000004E-06)\n5.6462\t19.224\t0\t9.5533E-03\t(0 0 0)\t(0.000244999999999999 0.000244999999999999 0.00000283)\n5.6962\t18.506\t0\t9.5533E-03\t(0 0 0)\t(0.000225999999999997 0.000225999999999997 0.00000261)\n5.7462\t17.787\t0\t9.5533E-03\t(0 0 0)\t(0.000208 0.000208 0.00000241)\n5.7962\t17.069\t0\t9.5533E-03\t(0 0 0)\t(0.000191 0.000191 2.20999999999999E-06)\n5.8462\t16.351\t0\t9.5533E-03\t(0 0 0)\t(0.000173999999999997 0.000173999999999997 2.01000000000004E-06)\n5.8962\t15.621\t0\t9.5533E-03\t(0 0 0)\t(0.000156999999999997 0.000156999999999997 1.81000000000004E-06)\n5.9462\t14.872\t0\t9.5533E-03\t(0 0 0)\t(0.000140999999999999 0.000140999999999999 1.63000000000002E-06)\n5.9962\t14.124\t0\t9.5533E-03\t(0 0 0)\t(0.000126999999999999 0.000126999999999999 0.00000147)\n6.0462\t13.375\t0\t9.5533E-03\t(0 0 0)\t(0.000114 0.000114 1.32000000000002E-06)\n6.0962\t12.626\t0\t9.5533E-03\t(0 0 0)\t(9.99999999999994E-05 9.99999999999994E-05 0.00000116)\n6.1462\t11.916\t0\t9.5533E-03\t(0 0 0)\t(8.70000000000003E-05 8.70000000000003E-05 1.01000000000002E-06)\n6.1962\t11.364\t0\t9.5533E-03\t(0 0 0)\t(7.39999999999977E-05 7.39999999999977E-05 8.60000000000043E-07)\n6.2462\t10.829\t0\t9.5533E-03\t(0 0 0)\t(6.29999999999971E-05 6.29999999999971E-05 7.39999999999996E-07)\n6.2962\t10.294\t0\t9.5533E-03\t(0 0 0)\t(5.29999999999975E-05 5.29999999999975E-05 6.20000000000004E-07)\n6.3462\t9.7588\t0\t9.5533E-03\t(0 0 0)\t(4.29999999999979E-05 4.29999999999979E-05 5.00000000000012E-07)\n6.3962\t9.1439\t0\t9.5533E-03\t(0 0 0)\t(3.29999999999983E-05 3.29999999999983E-05 3.8000000000002E-07)\n6.4462\t7.6477\t0\t9.5533E-03\t(0 0 0)\t(2.29999999999987E-05 2.29999999999987E-05 2.80000000000018E-07)\n6.4962\t5.9079\t0\t9.5533E-03\t(0 0 0)\t(1.69999999999997E-05 1.69999999999997E-05 2.00000000000005E-07)\n6.5462\t4.1682\t0\t9.5533E-03\t(0 0 0)\t(1.29999999999991E-05 1.29999999999991E-05 1.50000000000031E-07)\n6.5962\t2.4285\t0\t9.5533E-03\t(0 0 0)\t(7.99999999999759E-06 7.99999999999759E-06 1.00000000000002E-07)\n6.6462\t0.69816\t0\t9.5533E-03\t(0 0 0)\t(3.99999999999706E-06 3.99999999999706E-06 5.00000000000283E-08)\n6.6962\t0\t0\t9.5533E-03\t(0 0 0)\t(0 0 0)"),
    ("MAPLEAF/Examples/Motors/NASAStage1Motor.txt",
      "BurnedOxidizerInitialCG -22.5\nBurnedOxidizerLastCG    -22.5\nBurnedFuelInitialCG     -22.5\nBurnedFuelLastCG        -22.5\n\n#Time(s)   Thrust(N)   OxidizerFlowRate(kg/s)  FuelBurnRate(kg/s) OxMOI(kg*m^2) FuelMOI(kg*m^2)  \n0           17000000    0               0                       (0 0 0) (0 0 0)\n37.38064235 17000000    0               0                       (0 0 0) (0 0 0)\n37.38064236 0           0               0                       (0 0 0) (0 0 0)"),
    ("MAPLEAF/Examples/Motors/NASAStage2Motor.txt",
      "BurnedOxidizerInitialCG -5\nBurnedOxidizerLastCG    -5\nBurnedFuelInitialCG     -5\nBurnedFuelLastCG        -5\n\n#Time(s)   Thrust(N)   OxidizerFlowRate(kg/s)  FuelBurnRate(kg/s) OxMOI(kg*m^2) FuelMOI(kg*m^2)  \n0           0           0               0                       (0 0 0) (0 0 0)\n0.0000001   5000000     0               0                       (0 0 0) (0 0 0)\n61.193496   5000000     0               0                       (0 0 0) (0 0 0)\n61.193497   0           0               0                       (0 0 0) (0 0 0)"),
    ("MAPLEAF/Examples/Motors/test.txt",
      "# Motor Definition File: 2019_Definition_Draft\n\n# Amount of white space between each value is not important, there just needs to be some\n# Thrust curve will be linearly interpolated between the given values\n# Time(s) should be relative to motor ignition\n\n# Unburned fuel/oxidizer not currently accounted for, could be added in as a fixed mass?\n# Engine/Tank structure mass should be accounted for separately - the motor only accounts for propellant masses\n# MOI = Moment of Inertia\n    # It is assumed that oxidizer and fuel MOIs are always defined about the current CG of the oxidizer and fuel, respectively\n# To represent a solid rocket motor, simply put all of the MOI/CG/Flowrate info in either the fuel or oxidizer columns and set the other one to zero\n\n# Meters, all Z-coordinate, assumed centered\nBurnedOxidizerInitialCG     2\nBurnedOxidizerLastCG        2.5\nBurnedFuelInitialCG         3\nBurnedFuelLastCG            3\n\n#Time(s)   Thrust(N)   OxidizerFlowRate(kg/s)  FuelBurnRate(kg/s )OxMOI(kg*m^2) FuelMOI(kg*m^2)  \n0           0           0                       0       (1.0 1.0 0.1) (0.15 0.15 0.02)       \n0.01        4000        2                       0.3     (1.0 1.0 0.1) (0.15 0.15 0.02)\n5           4000        2                       0.3     (0.0 0.0 0.0) (0.0  0.0  0.0)"),
    ("MAPLEAF/Examples/Motors/test2.txt",
      "# Motor Definition File: 2019_Definition_Draft\n\n# Amount of white space between each value is not important, there just needs to be some\n# Thrust curve will be linearly interpolated between the given values\n# Time(s) should be relative to motor ignition\n\n# Unburned fuel/oxidizer not currently accounted for, could be added in as a fixed mass?\n# Engine/Tank structure mass should be accounted for separately - the motor only accounts for propellant masses\n# MOI = Moment of Inertia\n    # It is assumed that oxidizer and fuel MOIs are always defined about the current CG of the oxidizer and fuel, respectively\n# To represent a solid rocket motor, simply put all of the MOI/CG/Flowrate info in either the fuel or oxidizer columns and set the other one to zero\n\n# Meters, all Z-coordinate, assumed centered\nBurnedOxidizerInitialCG 2\nBurnedOxidizerLastCG    2.5\nBurnedFuelInitialCG     3\nBurnedFuelLastCG        3\n\n#Time(s)   Thrust(N)   OxidizerFlowRate(kg/s) FuelBurnRate(kg/s) OxMOI(kg*m^2) FuelMOI(kg*m^2)  \n0          0           0                      0                  (1.0 1.0 0.1) (0.15 0.15 0.02)       \n0.01       8000        2                      0.3                (1.0 1.0 0.1) (0.15 0.15 0.02)\n2          6000        2                      0.3                (0.0 0.0 0.0) (0.0  0.0  0.0)")
  ]

end Repository
end RocketSim
